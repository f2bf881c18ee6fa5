import ScriptLexer.Proofs.Grammar.Comment
import ScriptLexer.Proofs.Scanner.Basic

/-!
# Scanning comments

The loop over the body of a block comment passes what reading ahead counts. Its depth grows by one
for three characters and is lowered only where it is not zero, so it has room wherever the
characters have.
-/
namespace ScriptLexer

open Grammar

/-- The rest of a line is cut off at a boundary. -/
theorem Text.restOfLine_eq (text : List Char) :
    Text.restOfLine text = .ok (text.takeWhile (· != '\n')) := by
  unfold Text.restOfLine Text.breakOffset?
  by_cases ended : '\n' ∈ text
  · have cut := Text.cutBefore_append (text.takeWhile (· != '\n')) (text.dropWhile (· != '\n'))
    rw [List.takeWhile_append_dropWhile] at cut
    rw [if_pos ended]
    exact cut
  · have whole : text.takeWhile (· != '\n') = text := by
      rw [List.takeWhile_eq_self_iff]
      intro c member
      have other : c ≠ '\n' := by
        rintro rfl
        exact ended member
      simpa using other
    rw [if_neg ended, whole]

namespace Scanner

variable {options : LexingOptions} {state : LexingState} {cursor : Cursor} {c : Char}
  {rest others : List Char} {size depth : Nat}

/-! ## Turns -/

private theorem blockTurn_end (faces : cursor.Faces size []) :
    blockTurn (cursor, depth) = .ok (.done (cursor, false)) := by
  rw [blockTurn, faces.isAtEnd]
  rfl

private theorem blockTurn_goes {text : List Char} (faces : cursor.Faces size text)
    (nonempty : text ≠ []) :
    blockTurn (cursor, depth) =
      if opening.isPrefixOf text then do
        let after ← cursor.walk opening.length
        return .more (after, ← raise depth)
      else if closing.isPrefixOf text then do
        let after ← cursor.walk closing.length
        if depth = 0 then return .done (after, true) else return .more (after, ← lower depth)
      else return .more (← cursor.advance, depth) := by
  rw [blockTurn, faces.isAtEnd, if_neg (by simpa using nonempty), faces.startsWith,
    faces.startsWith]
  rfl

private theorem blockTurn_opening (faces : cursor.Faces size (opening ++ rest))
    (room : depth + 1 ≤ size) :
    Yields size (blockTurn (cursor, depth)) (.more (cursor.past opening, depth + 1)) := by
  have opens : opening.isPrefixOf (opening ++ rest) = true := by simp
  rw [blockTurn_goes faces (by simp [opening]), if_pos opens]
  refine faces.walk.bind ?_
  unfold raise
  split
  case isTrue => exact .ok size _
  case isFalse full => exact .inr ⟨rfl, by omega⟩

private theorem blockTurn_closing (faces : cursor.Faces size (closing ++ rest)) :
    Yields size (blockTurn (cursor, depth))
      (if depth = 0 then .done (cursor.past closing, true)
      else .more (cursor.past closing, depth - 1)) := by
  have notOpens : ¬ opening.isPrefixOf (closing ++ rest) = true := by simp [opening, closing]
  have closes : closing.isPrefixOf (closing ++ rest) = true := by simp
  rw [blockTurn_goes faces (by simp [closing]), if_neg notOpens, if_pos closes]
  refine faces.walk.bind ?_
  cases depth with
  | zero => exact .ok size _
  | succ depth => exact .ok size _

private theorem blockTurn_plain (faces : cursor.Faces size (c :: rest))
    (noOpening : ∀ more, c = '<' → rest = '<' :: '<' :: more → False)
    (noClosing : ∀ more, c = '>' → rest = '>' :: '>' :: more → False) :
    Yields size (blockTurn (cursor, depth)) (.more (cursor.past [c], depth)) := by
  have notOpening : ¬ opening.isPrefixOf (c :: rest) = true := by
    rw [List.isPrefixOf_iff_prefix]
    rintro ⟨more, same⟩
    obtain ⟨rfl, tail⟩ := List.cons.inj same
    exact noOpening more rfl tail.symm
  have notClosing : ¬ closing.isPrefixOf (c :: rest) = true := by
    rw [List.isPrefixOf_iff_prefix]
    rintro ⟨more, same⟩
    obtain ⟨rfl, tail⟩ := List.cons.inj same
    exact noClosing more rfl tail.symm
  rw [blockTurn_goes faces (by simp), if_neg notOpening, if_neg notClosing]
  exact faces.advance.bind (.ok size _)

/-! ## Bodies -/

/-- Reading on in the body of a comment and looping over it come to the same end, behind `body`. -/
structure BlockBody (depth : Nat) (body rest : List Char) (closed : Bool) : Prop where
  reads : ∀ passed, Yields (depth + body.length) (commentEnd depth passed (body ++ rest))
    { length := passed + body.length, closed }
  loops : ∀ {cursor : Cursor} {size budget : Nat}, cursor.Faces size (body ++ rest) →
    depth + (body ++ rest).length ≤ size → (body ++ rest).length < budget →
      Yields size (takeTurns blockTurn budget (cursor, depth)) (cursor.past body, closed)

/-- A unit in front of a body, counted as it is passed. It leaves the depth no greater than its
characters allow. -/
theorem BlockBody.unit {unit body : List Char} {inner : Nat} {closed : Bool} (nonempty : unit ≠ [])
    (rises : inner ≤ depth + unit.length)
    (reads : ∀ passed, commentEnd depth passed (unit ++ (body ++ rest)) =
        commentEnd inner (passed + unit.length) (body ++ rest) ∨
      commentEnd depth passed (unit ++ (body ++ rest)) = .error .counterOverflow ∧
        counterLimit ≤ depth + unit.length)
    (turn : ∀ {cursor : Cursor} {size : Nat}, cursor.Faces size (unit ++ (body ++ rest)) →
      depth + unit.length ≤ size →
        Yields size (blockTurn (cursor, depth)) (.more (cursor.past unit, inner)))
    (isBody : BlockBody inner body rest closed) : BlockBody depth (unit ++ body) rest closed := by
  constructor
  · intro passed
    rw [List.append_assoc, List.length_append]
    rcases reads passed with same | ⟨failed, full⟩
    · rw [same, ← Nat.add_assoc passed]
      exact (isBody.reads _).mono (by omega)
    · exact .inr ⟨failed, by omega⟩
  · intro cursor size budget faces room enough
    rw [List.append_assoc] at faces room enough
    rw [List.length_append] at room
    refine takeTurns_more nonempty enough (turn faces (by omega)) ?_
    intro fewer enough
    have looped := isBody.loops faces.past (by omega) enough
    rwa [Cursor.past_past] at looped

theorem exists_blockBody (depth : Nat) (text : List Char) :
    ∃ body rest closed, text = body ++ rest ∧ BlockBody depth body rest closed := by
  induction text using depthSteps.induct generalizing depth with
  | case1 rest ih =>
    obtain ⟨body, tail, closed, rfl, isBody⟩ := ih (depth + 1)
    refine ⟨opening ++ body, tail, closed, rfl, isBody.unit (by decide) ?_ ?_ ?_⟩
    · exact Nat.add_le_add_left (by decide) depth
    · intro passed
      by_cases room : depth + 1 < counterLimit
      · exact .inl (if_pos room)
      · refine .inr ⟨if_neg room, ?_⟩
        simp only [opening, List.length_cons]
        omega
    · intro cursor size faces room
      refine blockTurn_opening faces ?_
      simp only [opening, List.length_cons] at room
      omega
  | case2 rest ih =>
    cases depth with
    | zero =>
      refine ⟨closing, rest, true, rfl, fun passed => .ok _ _, ?_⟩
      intro cursor size budget faces room enough
      exact takeTurns_done (blockTurn_closing faces) (by omega)
    | succ depth =>
      obtain ⟨body, tail, closed, rfl, isBody⟩ := ih depth
      refine ⟨closing ++ body, tail, closed, rfl, isBody.unit (by decide) (by omega) ?_ ?_⟩
      · exact fun passed => .inl rfl
      · exact fun faces _ => blockTurn_closing faces
  | case3 c rest noOpening noClosing ih =>
    obtain ⟨body, tail, closed, rfl, isBody⟩ := ih depth
    refine ⟨[c] ++ body, tail, closed, rfl, isBody.unit (by simp) (by omega) ?_ ?_⟩
    · exact fun passed => .inl (commentEnd.eq_4 _ _ c _ noOpening noClosing)
    · exact fun faces _ => blockTurn_plain faces noOpening noClosing
  | case4 =>
    refine ⟨[], [], false, rfl, fun passed => .ok _ _, ?_⟩
    intro cursor size budget faces room enough
    rw [Cursor.past_nil]
    exact takeTurns_done (.inl (blockTurn_end faces)) (by omega)

/-! ## Whole comments -/

theorem closeBlock_behind {lexeme : List Char} (faces : state.cursor.Faces size (lexeme ++ rest))
    (closed : Bool) :
    closeBlock options closed state.cursor.place (state.moved (state.cursor.past lexeme)) =
      .ok (state.behind options (if closed then .token .blockComment else .openComment)
        lexeme) := by
  unfold closeBlock LexingState.behind LexingState.record
  rw [LexingState.closeToken_past faces rfl, ok_bind]
  cases closed with
  | true => rfl
  | false =>
    cases options.reportOpenComments with
    | false => rfl
    | true => exact LexingState.closeError_past faces rfl .openComment

/-- Behind the opening delimiter the rest of the line decides which comment it is. -/
private theorem comment_opened {body : List Char}
    (faces : state.cursor.Faces size (opening ++ body)) {answer : Bool × LexingState}
    (scanned : Yields size
      (if mentionsClosing (body.takeWhile (· != '\n')) then do
        let (stop, closed) ← takeTurns blockTurn state.cursor.turns (state.cursor.past opening, 0)
        accept (closeBlock options closed state.cursor.place (state.moved stop))
      else do
        let stop ← (state.cursor.past opening).eatWhile (· != '\n')
        accept ((state.moved stop).closeToken .lineComment state.cursor.place)) answer) :
    Yields size (comment options state.cursor.place state) answer := by
  have opens : opening.isPrefixOf (opening ++ body) = true := by simp
  rw [comment, faces.startsWith, ok_bind, if_pos opens]
  refine faces.walk.bind ?_
  rw [faces.past.remaining, ok_bind, Text.restOfLine_eq, ok_bind]
  exact scanned

/-- A closing delimiter on its first line makes it a block comment. -/
private theorem tries_block {body : List Char}
    (faces : state.cursor.Faces size (opening ++ body))
    (mentions : mentionsClosing (body.takeWhile (· != '\n')) = true) :
    Tries options .comment state size (opening ++ body) := by
  obtain ⟨front, rest, closed, rfl, isBody⟩ := exists_blockBody 0 body
  have ahead : state.cursor.Faces size ((opening ++ front) ++ rest) := by
    rwa [List.append_assoc]
  have inside := faces.past
  refine .inr ⟨if closed then .token .blockComment else .openComment, opening ++ front, rest,
    (List.append_assoc _ _ _).symm, by simp [opening], ?_, ?_, ?_⟩
  · cases closed <;> exact trivial
  · refine comment_opened faces ?_
    rw [if_pos mentions]
    have looped := isBody.loops inside (by simpa using inside.room.le_size) inside.length_lt_turns
    rw [Cursor.past_past] at looped
    refine looped.bind ?_
    exact accept_ok (closeBlock_behind ahead closed)
  · have read := (isBody.reads 3).map fun reached : CommentEnd =>
      some { finding := if reached.closed then .token .blockComment else .openComment,
             length := reached.length : Reading }
    simp only [Family.read, opening, List.cons_append, List.nil_append,
      readComment, mentions, if_true, List.length_cons]
    rw [Nat.add_comm 3] at read
    have room := inside.room.le_size
    rw [List.length_append] at room
    exact read.mono (by omega)

/-- Without one it is a comment of that line. -/
private theorem tries_line {body : List Char}
    (faces : state.cursor.Faces size (opening ++ body))
    (mentions : ¬ mentionsClosing (body.takeWhile (· != '\n')) = true) :
    Tries options .comment state size (opening ++ body) := by
  obtain ⟨line, rest, rfl, inLine, stops⟩ := exists_run (· != '\n') body
  have whole : (line ++ rest).takeWhile (· != '\n') = line := Stops.takeWhile_append inLine stops
  have ahead : state.cursor.Faces size ((opening ++ line) ++ rest) := by
    rwa [List.append_assoc]
  refine .inr ⟨.token .lineComment, opening ++ line, rest, (List.append_assoc _ _ _).symm,
    by simp [opening], trivial, ?_, ?_⟩
  · refine comment_opened faces ?_
    rw [if_neg mentions]
    refine (faces.past.eatWhile inLine stops).bind ?_
    rw [Cursor.past_past]
    exact accept_ok (LexingState.closeToken_behind ahead (by simp))
  · rw [whole] at mentions
    simp only [Family.read, opening, List.cons_append, List.nil_append,
      readComment, whole, mentions, List.length_cons]
    rw [Nat.add_comm 3]
    exact .ok _ _

theorem tries_comment (faces : state.cursor.Faces size (c :: others)) :
    Tries options .comment state size (c :: others) := by
  by_cases opens : ∃ body, c :: others = opening ++ body
  · obtain ⟨body, same⟩ := opens
    rw [same] at faces ⊢
    by_cases mentions : mentionsClosing (body.takeWhile (· != '\n')) = true
    · exact tries_block faces mentions
    · exact tries_line faces mentions
  · have notOpens : ¬ opening.isPrefixOf (c :: others) = true := by
      rw [List.isPrefixOf_iff_prefix]
      rintro ⟨body, same⟩
      exact opens ⟨body, same.symm⟩
    refine .inl ⟨?_, ?_⟩
    · show Yields size (comment options state.cursor.place state) _
      rw [comment, faces.startsWith, ok_bind, if_neg notOpens]
      exact .ok size _
    · exact readComment.eq_2 _ fun body same => opens ⟨body, same⟩

end Scanner

end ScriptLexer
