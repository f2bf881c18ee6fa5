import ScriptLexer.Proofs.Scanner.Protocol

/-!
# No operation of a scanner fails

A source whose characters can all be counted is scanned without a fault: every cut is at the
boundary of a character, no line, column or depth overflows, and no depth is lowered at zero. Since
a fault ends a run, one that comes to its end has met none on its way; and where a run stands in
front of a lexeme, no scanner would meet one, also not those that are not asked there.
-/
namespace ScriptLexer.Scanner

variable {options : LexingOptions} {source : String} {state : LexingState}

/-- In front of a lexeme, whatever looks at the text ahead has an answer. -/
theorem AtLexeme.looks (reached : AtLexeme options source state) (n : Nat) :
    (∃ ahead, state.cursor.remaining = .ok ahead ∧ state.cursor.cutAhead n = .ok (ahead.take n)) ∧
      ∃ c, state.cursor.look n = .ok c := by
  obtain ⟨c, others, faces⟩ := reached.exists_faces
  refine ⟨⟨_, faces.remaining, ?_⟩, _, faces.look n⟩
  rw [Cursor.cutAhead_eq_take, Cursor.take, faces.remaining]
  rfl

theorem AtLexeme.scans (short : source.length + 1 < counterLimit)
    (reached : AtLexeme options source state) (family : Family) :
    ∃ answer, scan options state.cursor.place family state = .ok answer ∧
      state.scan options family = .ok answer := by
  obtain ⟨c, others, faces⟩ := reached.exists_faces
  obtain ⟨answer, scans, reads, _⟩ := @scan_agrees options state c others _ family faces
  exact ⟨answer, scans.eq_ok short, reads.eq_ok short⟩

theorem AtLexeme.steps (short : source.length + 1 < counterLimit)
    (reached : AtLexeme options source state) :
    ∃ after, step options state = .ok after ∧ state.step options = .ok after := by
  obtain ⟨c, others, faces⟩ := reached.exists_faces
  obtain ⟨_, _, _, _, _, steps, readSteps⟩ := @step_agrees options state c others _ faces
  exact ⟨_, steps.eq_ok short, readSteps.eq_ok short⟩

/-- A source of fewer characters than a counter holds has a lexing, found by scanning as well as by
reading ahead, and nothing on the way to it fails. -/
theorem lexText_faultless (options : LexingOptions) {source : String}
    (short : source.length + 1 < counterLimit) :
    (∃ lexing, Scanner.lexText options source = .ok lexing ∧
      ScriptLexer.lexText options source = .ok lexing) ∧
    ∀ state, AtLexeme options source state →
      (∀ family, ∃ answer, scan options state.cursor.place family state = .ok answer ∧
        state.scan options family = .ok answer) ∧
      (∃ after, step options state = .ok after ∧ state.step options = .ok after) ∧
      ∀ n, (∃ ahead, state.cursor.remaining = .ok ahead ∧
          state.cursor.cutAhead n = .ok (ahead.take n)) ∧
        ∃ c, state.cursor.look n = .ok c := by
  refine ⟨?_, ?_⟩
  · obtain ⟨lexing, scanned, read⟩ := lexText_agrees options source
    exact ⟨lexing, scanned.eq_ok short, read.eq_ok short⟩
  · intro state reached
    exact ⟨reached.scans short, reached.steps short, reached.looks⟩

/-- A wide character, a null character, a minus sign that is gone back over, and a comment that
rises and falls in depth. -/
theorem lexText_faultless_mixed :
    ∃ lexing, Scanner.lexText { reportOpenComments := true } "é-\x00 <<<<<<>>>>>" = .ok lexing ∧
      ScriptLexer.lexText { reportOpenComments := true } "é-\x00 <<<<<<>>>>>" = .ok lexing ∧
      lexing.errors.map LexicalError.span = [⟨0, 2, 1, 1⟩, ⟨3, 4, 1, 3⟩, ⟨5, 16, 1, 5⟩] ∧
      ∃ state, AtLexeme { reportOpenComments := true } "é-\x00 <<<<<<>>>>>" state ∧
        ∀ family, ∃ answer,
          scan { reportOpenComments := true } state.cursor.place family state = .ok answer := by
  obtain ⟨⟨lexing, scanned, read⟩, answers⟩ :=
    @lexText_faultless { reportOpenComments := true } "é-\x00 <<<<<<>>>>>" (by decide)
  have found : (ScriptLexer.lexText { reportOpenComments := true } "é-\x00 <<<<<<>>>>>").map
      (fun lexing => lexing.errors.map LexicalError.span) =
      .ok [⟨0, 2, 1, 1⟩, ⟨3, 4, 1, 3⟩, ⟨5, 16, 1, 5⟩] := by
    decide +kernel
  rw [read] at found
  have begun : (do
      let state ← skipBlanks { cursor := Cursor.ofText "é-\x00 <<<<<<>>>>>".toList }
      return state.cursor.isAtEnd) = .ok false := by
    decide +kernel
  obtain ⟨state, skipped, starts⟩ := exists_of_bind_eq_ok begun
  have starts : state.cursor.isAtEnd = false := Except.ok.inj starts
  have reached : AtLexeme { reportOpenComments := true } "é-\x00 <<<<<<>>>>>" state :=
    .first skipped starts
  refine ⟨lexing, scanned, read, Except.ok.inj found, state, reached, ?_⟩
  intro family
  obtain ⟨answer, scans, _⟩ := (answers state reached).1 family
  exact ⟨answer, scans⟩

end ScriptLexer.Scanner
