import ScriptLexer.Proofs.Record
import ScriptLexer.Proofs.Walk

/-!
# Running over a text

A run over a text records exactly what a division of it says, whichever division that is. One step
passes one piece and records it; a run is as many steps as there are pieces.
-/
namespace ScriptLexer

namespace LexingState

variable {options : LexingOptions} {state : LexingState}

/-! ## One step -/

/-- Asking the families in turn is reading the lexeme first and recording it afterwards. -/
theorem scanFirst_eq {text : List Char} (ahead : state.cursor.rest = some text)
    (families : List Family) :
    state.scanFirst options families = (do
      match ← Family.readFirst families text with
      | some reading => return (true, ← state.commit options reading)
      | none => return (false, state)) := by
  induction families with
  | nil => rfl
  | cons family others ih =>
    rw [scanFirst, scan, Cursor.remaining_of_rest ahead, Family.readFirst]
    cases read : family.read text with
    | error fault => simp [read, bind, Except.bind]
    | ok found =>
      cases found with
      | none =>
        simp only [bind, Except.bind, read, pure, Except.pure]
        exact ih
      | some reading =>
        simp only [bind, Except.bind, read, pure, Except.pure]
        cases state.commit options reading <;> rfl

theorem step_eq {c : Char} {others : List Char} (ahead : state.cursor.rest = some (c :: others)) :
    state.step options = readLexeme c others >>= state.commit options := by
  rw [step, scanFirst_eq ahead, readLexeme]
  cases Family.readFirst Family.all (c :: others) with
  | error fault => rfl
  | ok found =>
    cases found with
    | none =>
      simp only [bind, Except.bind, pure, Except.pure, Except.map, Option.getD]
      rw [reject, Cursor.peek_of_rest ahead]
      rfl
    | some reading =>
      simp only [bind, Except.bind, pure, Except.pure, Except.map, Option.getD]
      cases state.commit options reading <;> rfl

/-- `after` is the state behind the lexeme, with the lexeme recorded. -/
structure Passed (options : LexingOptions) (state after : LexingState) (located : Located)
    (place : Place) (rest : List Char) : Prop where
  place : after.cursor.place = place
  rest : after.cursor.rest = some rest
  tokens : after.tokens = located.token?.toList ++ state.tokens
  errors : after.errors = located.errors options state.latest ++ state.errors
  latest : after.latest = located.latest state.latest

theorem commit_yields {finding : Finding} {lexeme rest : List Char} {size : Nat}
    (ahead : state.cursor.rest = some (lexeme ++ rest)) (nonempty : lexeme ≠ [])
    (room : state.cursor.place.Room size lexeme.length) :
    ∃ after, Yields size (state.commit options { finding, length := lexeme.length }) after ∧
      state.Passed options after
        { finding, lexeme := String.ofList lexeme
          span := Span.between state.cursor.place (state.cursor.place.past lexeme) }
        (state.cursor.place.past lexeme) rest := by
  obtain ⟨stop, reached, passes⟩ := Cursor.nextn_yields ahead nonempty room
  have place := passes.place
  refine ⟨({ state with cursor := stop } : LexingState).record options finding
    (String.ofList lexeme) (Span.between state.cursor.place stop.place), ?_, ?_⟩
  · refine reached.bind ?_
    rw [passes.textUpTo ahead]
    exact .ok size _
  · constructor
    · rw [record_cursor, place]
    · rw [record_cursor, passes.rest]
    · rw [record_tokens, place]
    · rw [record_errors, place]
      rfl
    · rw [record_latest, place]
      rfl

/-- A step passes the lexeme that stands ahead. -/
theorem step_yields {finding : Finding} {lexeme rest : List Char} {size : Nat}
    (ahead : state.cursor.rest = some (lexeme ++ rest)) (stands : Stands finding lexeme rest)
    (room : state.cursor.place.Room size lexeme.length) :
    ∃ after, Yields size (state.step options) after ∧
      state.Passed options after
        { finding, lexeme := String.ofList lexeme
          span := Span.between state.cursor.place (state.cursor.place.past lexeme) }
        (state.cursor.place.past lexeme) rest := by
  have nonempty := stands.form.begins.ne_nil
  obtain ⟨c, others, same⟩ : ∃ c others, c :: others = lexeme ++ rest := by
    obtain ⟨c, more, rfl⟩ := List.exists_cons_of_ne_nil nonempty
    exact ⟨c, more ++ rest, rfl⟩
  obtain ⟨after, committed, passed⟩ :=
    @commit_yields options state finding lexeme rest size ahead nonempty room
  have read := (stands.readLexeme same).mono room.le_size
  refine ⟨after, ?_, passed⟩
  rw [step_eq (ahead.trans (congrArg some same.symm))]
  exact read.bind committed

/-! ## A whole run -/

theorem skipBlanks_yields {gap rest : List Char} {size : Nat}
    (ahead : state.cursor.rest = some (gap ++ rest)) (blank : ∀ c ∈ gap, isBlank c = true)
    (stops : Stops isBlank rest.head?) (room : state.cursor.place.Room size gap.length) :
    ∃ stop, Yields size state.skipBlanks { state with cursor := stop } ∧
      state.cursor.Passes stop gap rest := by
  obtain ⟨stop, reached, passes⟩ := Cursor.skipWhile_yields ahead blank stops room
  exact ⟨stop, reached.bind (.ok size _), passes⟩

/-- A run records what a division of the text ahead says, behind what is recorded before. -/
theorem run_yields {pieces : List Piece} {tail : List Char} (divides : Divides pieces tail)
    {budget size : Nat} (enough : pieces.length ≤ budget)
    (ahead : state.cursor.rest = some (textOf pieces tail))
    (room : state.cursor.place.Room size (textOf pieces tail).length) :
    ∃ final, Yields size (run options budget state) final ∧
      final.tokens.reverse =
        state.tokens.reverse ++ tokensOf (locate state.cursor.place pieces) ∧
      final.errors.reverse =
        state.errors.reverse ++
          errorsOf options state.latest (locate state.cursor.place pieces) := by
  induction pieces generalizing state budget with
  | nil =>
    obtain ⟨stop, skipped, passes⟩ := @skipBlanks_yields state tail [] size
      (by simpa using ahead) divides (by simp) (by simpa using room)
    refine ⟨{ state with cursor := stop }, ?_, by simp [locate, tokensOf],
      by simp [locate, errorsOf]⟩
    cases budget <;>
    · refine skipped.bind ?_
      simp only [Cursor.isAtEnd_of_rest passes.rest, List.isEmpty_nil, if_true]
      exact .ok size _
  | cons piece others ih =>
    obtain ⟨blank, stands, rest⟩ := divides
    have begins := isBlank_false_of_begins (stands.form.begins.append (textOf others tail))
    rw [textOf_cons] at ahead room
    rw [List.length_append] at room
    obtain ⟨stop, skipped, passes⟩ := skipBlanks_yields ahead blank begins (room.mono (by omega))
    have behind := room.past piece.gap
    rw [← passes.place, List.length_append] at behind
    obtain ⟨after, stepped, passed⟩ := @step_yields options { state with cursor := stop }
      piece.finding piece.lexeme (textOf others tail) size passes.rest stands
      (behind.mono (by omega))
    have room' := behind.past piece.lexeme
    rw [← passed.place] at room'
    cases budget with
    | zero => simp at enough
    | succ budget =>
      obtain ⟨final, ran, tokens, errors⟩ :=
        @ih after rest budget (by simpa using enough) passed.rest room'
      refine ⟨final, ?_, ?_, ?_⟩
      · refine skipped.bind ?_
        have goes : ¬ stop.isAtEnd = true := by
          rw [Cursor.isAtEnd_of_rest passes.rest]
          simpa using fun empty _ => stands.form.begins.ne_nil empty
        simp only [if_neg goes]
        exact stepped.bind ran
      · rw [tokens, passed.tokens, locate, tokensOf_cons, passed.place, passes.place]
        cases Located.token? _ <;> simp
      · rw [errors, passed.errors, passed.latest, locate, errorsOf, passed.place, passes.place,
          List.reverse_append, Located.reverse_errors, List.append_assoc]
        rfl

end LexingState

/-- The lexing of a text is what any division of it says. -/
theorem lexText_yields (options : LexingOptions) {pieces : List Piece} {tail : List Char}
    (divides : Divides pieces tail) {source : String} (same : source.toList = textOf pieces tail) :
    Yields (source.length + 1) (lexText options source) (Lexing.ofPieces options pieces) := by
  have length : source.length = (textOf pieces tail).length := by
    rw [← same, String.length_toList]
  have room : ({} : Place).Room (source.length + 1) (textOf pieces tail).length :=
    ⟨by rw [length, Nat.add_comm], by rw [length, Nat.add_comm], Nat.le_refl 1⟩
  obtain ⟨final, ran, tokens, errors⟩ := @LexingState.run_yields options
    { cursor := Cursor.ofText (textOf pieces tail) } pieces tail divides _ _ divides.length_le rfl
    room
  unfold lexText
  rw [same]
  have result : Lexing.ofPieces options pieces =
      { tokens := final.tokens.reverse, errors := final.errors.reverse } := by
    rw [tokens, errors]
    rfl
  rw [result]
  exact ran.bind (.ok _ _)

/-- A text is lexed, unless a counter overflows. -/
theorem lexText_cases (options : LexingOptions) (source : String) :
    (∃ lexing, lexText options source = .ok lexing) ∨
      (lexText options source = .error .counterOverflow ∧ counterLimit ≤ source.length + 1) := by
  obtain ⟨pieces, tail, same, divides⟩ := exists_division source.toList
  rcases lexText_yields options divides same.symm with done | overflows
  · exact .inl ⟨_, done⟩
  · exact .inr overflows

end ScriptLexer
