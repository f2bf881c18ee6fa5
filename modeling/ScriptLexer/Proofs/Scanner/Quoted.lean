import ScriptLexer.Proofs.Grammar.Quoted
import ScriptLexer.Proofs.Scanner.Basic

/-!
# Scanning strings

The loop over the body of a string passes what reading ahead counts, unit by unit, and ends for the
same reason. The backslash that ends a text is the one unit of a single character.
-/
namespace ScriptLexer.Scanner

open Grammar

variable {options : LexingOptions} {state : LexingState} {cursor : Cursor} {quote c : Char}
  {rest others : List Char} {size : Nat}

private theorem quotedTurn_end (faces : cursor.Faces size []) :
    quotedTurn quote cursor = .ok (.done (cursor, false)) := by
  rw [quotedTurn, faces.isAtEnd]
  rfl

private theorem quotedTurn_cons (faces : cursor.Faces size (c :: rest)) :
    quotedTurn quote cursor =
      if c = '\n' then .ok (.done (cursor, false))
      else if c = '\\' then do
        let escaped ← cursor.advance
        return .more (← escaped.advance)
      else if c = quote then return .done (← cursor.advance, true)
      else return .more (← cursor.advance) := by
  rw [quotedTurn, faces.isAtEnd, if_neg (by simp), faces.look_head]
  rfl

/-- What is neither a last backslash nor one with a character behind it is none. -/
private theorem not_escape (noLast : c = '\\' → rest = [] → False)
    (noEscape : ∀ next others, c = '\\' → rest = next :: others → False) : c ≠ '\\' := by
  rintro rfl
  cases rest with
  | nil => exact noLast rfl rfl
  | cons next others => exact noEscape next others rfl rfl

/-- Reading on in the body of a string and looping over it come to the same end, behind `body`. -/
structure QuotedBody (quote : Char) (body rest : List Char) (closed : Bool) : Prop where
  reads : ∀ passed,
    quotedEnd quote passed (body ++ rest) = { length := passed + body.length, closed }
  loops : ∀ {cursor : Cursor} {size budget : Nat}, cursor.Faces size (body ++ rest) →
    (body ++ rest).length < budget →
      Yields size (takeTurns (quotedTurn quote) budget cursor) (cursor.past body, closed)

namespace QuotedBody

/-- Where neither goes on, the body is over. -/
theorem ended
    (reads : ∀ passed, quotedEnd quote passed rest = { length := passed, closed := false })
    (last : ∀ {cursor : Cursor} {size : Nat}, cursor.Faces size rest →
      quotedTurn quote cursor = .ok (.done (cursor, false))) :
    QuotedBody quote [] rest false := by
  refine ⟨reads, ?_⟩
  intro cursor size budget faces enough
  rw [Cursor.past_nil]
  exact takeTurns_done (.inl (last faces)) (by omega)

/-- A unit in front of a body, counted as it is passed. -/
theorem unit {unit body : List Char} {closed : Bool} (nonempty : unit ≠ [])
    (reads : ∀ passed, quotedEnd quote passed (unit ++ (body ++ rest)) =
      quotedEnd quote (passed + unit.length) (body ++ rest))
    (turn : ∀ {cursor : Cursor} {size : Nat}, cursor.Faces size (unit ++ (body ++ rest)) →
      Yields size (quotedTurn quote cursor) (.more (cursor.past unit)))
    (isBody : QuotedBody quote body rest closed) : QuotedBody quote (unit ++ body) rest closed := by
  constructor
  · intro passed
    rw [List.append_assoc, reads, isBody.reads, List.length_append, Nat.add_assoc]
  · intro cursor size budget faces enough
    rw [List.append_assoc] at faces enough
    refine takeTurns_more nonempty enough (turn faces) ?_
    intro fewer enough
    have looped := isBody.loops faces.past enough
    rwa [Cursor.past_past] at looped

end QuotedBody

theorem exists_quotedBody (quote : Char) (text : List Char) :
    ∃ body rest closed, text = body ++ rest ∧ QuotedBody quote body rest closed := by
  -- The count of passed characters plays no part; the walk only lends its case analysis.
  have passed : Nat := 0
  induction passed, text using quotedEnd.induct quote with
  | case1 => exact ⟨[], [], false, rfl, .ended (fun _ => rfl) quotedTurn_end⟩
  | case2 passed rest =>
    refine ⟨[], '\n' :: rest, false, rfl, .ended (fun _ => rfl) ?_⟩
    intro cursor size faces
    rw [quotedTurn_cons faces, if_pos rfl]
  | case3 =>
    have ended : QuotedBody quote [] [] false := .ended (fun _ => rfl) quotedTurn_end
    refine ⟨['\\'] ++ [], [], false, rfl, ended.unit (by simp) (fun _ => rfl) ?_⟩
    intro cursor size faces
    rw [quotedTurn_cons faces, if_neg (by decide), if_pos rfl]
    refine faces.advance.bind ?_
    rw [faces.past_one.advance_end]
    exact .ok size _
  | case4 passed c rest ih =>
    obtain ⟨body, tail, closed, rfl, isBody⟩ := ih
    refine ⟨['\\', c] ++ body, tail, closed, rfl, isBody.unit (by simp) (fun _ => rfl) ?_⟩
    intro cursor size faces
    rw [quotedTurn_cons faces, if_neg (by decide), if_pos rfl]
    refine faces.advance.bind (faces.past_one.advance.bind ?_)
    rw [Cursor.past_past]
    exact .ok size _
  | case5 passed rest noBreak noLast noEscape =>
    have plain := not_escape noLast noEscape
    refine ⟨[quote], rest, true, rfl, ?_, ?_⟩
    · intro passed
      rw [List.singleton_append, quotedEnd.eq_5 _ _ quote _ noBreak noLast noEscape, if_pos rfl]
      rfl
    · intro cursor size budget faces enough
      refine takeTurns_done ?_ (by omega)
      rw [quotedTurn_cons faces, if_neg noBreak, if_neg plain, if_pos rfl]
      exact faces.advance.bind (.ok size _)
  | case6 passed c rest noBreak noLast noEscape noQuote ih =>
    have plain := not_escape noLast noEscape
    obtain ⟨body, tail, closed, rfl, isBody⟩ := ih
    refine ⟨[c] ++ body, tail, closed, rfl, isBody.unit (by simp) ?_ ?_⟩
    · intro passed
      rw [List.singleton_append, quotedEnd.eq_5 _ _ c _ noBreak noLast noEscape, if_neg noQuote]
      rfl
    · intro cursor size faces
      rw [quotedTurn_cons faces, if_neg noBreak, if_neg plain, if_neg noQuote]
      exact faces.advance.bind (.ok size _)

theorem tries_quoted (faces : state.cursor.Faces size (c :: others)) :
    Tries options .quoted state size (c :: others) := by
  by_cases quotes : isQuote c = true
  · obtain ⟨body, rest, closed, rfl, isBody⟩ := exists_quotedBody c others
    have ahead : state.cursor.Faces size (c :: body ++ rest) := faces
    have inside := faces.past_one
    refine .inr ⟨if closed then .token .string else .error (.openString c), c :: body, rest, rfl,
      by simp, ?_, ?_, ?_⟩
    · cases closed with
      | true => exact trivial
      | false => exact List.mem_cons_self
    · show Yields size (quoted state.cursor.place state) _
      rw [quoted, faces.look_head, ok_bind, if_pos quotes]
      refine faces.advance.bind ?_
      refine (isBody.loops inside inside.length_lt_turns).bind ?_
      rw [Cursor.past_past]
      cases closed with
      | true => exact accept_ok (LexingState.closeToken_behind ahead (by simp))
      | false => exact accept_ok (LexingState.closeError_behind ahead _)
    · simp only [Family.read, List.cons_append, readQuoted, quotes, if_true,
        isBody.reads, List.length_cons, Nat.add_comm 1]
      exact .ok _ _
  · refine .inl ⟨?_, ?_⟩
    · show Yields size (quoted state.cursor.place state) _
      rw [quoted, faces.look_head, ok_bind, if_neg quotes]
      exact .ok size _
    · simp [Family.read, readQuoted, quotes]

end ScriptLexer.Scanner
