import ScriptLexer.Proofs.Scanner.Agreement

/-!
# The protocol of the scanners

Wherever a run stands in front of a lexeme, a scanner either leaves everything as it is, or moves on
and records the lexeme once. So every step of a run passes something, and the run is over after no
more steps than the text has characters.
-/
namespace ScriptLexer

/-! ## What a lexeme adds to the records -/

/-- Behind a lexeme a state has tokens of the kinds and errors of the codes more than before, each
with the text and the span from where the cursor was up to where it is now. The latest records come
first. -/
def LexingState.Adds (before after : LexingState) (kinds : List Token.Kind)
    (codes : List ErrorCode) : Prop :=
  ∃ lexeme tokens errors,
    after.cursor.textSince before.cursor.place.position = .ok lexeme ∧
    after.tokens = tokens ++ before.tokens ∧ tokens.map Token.kind = kinds ∧
    after.errors = errors ++ before.errors ∧ errors.map LexicalError.code = codes ∧
    (∀ token ∈ tokens, token.lexeme = String.ofList lexeme ∧
      token.span = Span.between before.cursor.place after.cursor.place) ∧
    ∀ error ∈ errors, error.lexeme = String.ofList lexeme ∧
      error.span = Span.between before.cursor.place after.cursor.place

/-- A scanner has moved on in the same text and recorded one lexeme: as a token, as an error that
spoils it, as a misplaced operator, or as a comment that the text ends. -/
structure LexingState.Accepts (before after : LexingState) : Prop where
  source : after.cursor.source = before.cursor.source
  forward : before.cursor.place.position < after.cursor.place.position
  records : (∃ kind, before.Adds after [kind] []) ∨
    (∃ code ∈ scannerCodes, before.Adds after [] [code]) ∨
    before.Adds after [.operator] [.operatorSequence] ∨
    before.Adds after [.blockComment] [.unterminatedComment]

namespace LexingState

variable {options : LexingOptions} {state : LexingState} {finding : Finding}
  {lexeme rest : List Char} {size : Nat}

/-- The lexeme in its place ahead of the cursor. -/
def ahead (finding : Finding) (lexeme : List Char) (state : LexingState) : Located :=
  { finding
    lexeme := String.ofList lexeme
    span := Span.between state.cursor.place (state.cursor.place.past lexeme) }

theorem behind_cursor :
    (state.behind options finding lexeme).cursor = state.cursor.past lexeme := by
  rw [behind, record_cursor]
  rfl

/-- A finding adds the token of its kind, if it has one, and its errors. -/
theorem adds_behind (faces : state.cursor.Faces size (lexeme ++ rest)) :
    state.Adds (state.behind options finding lexeme) finding.kind?.toList
      (((state.ahead finding lexeme).errors options state.latest).map LexicalError.code) := by
  refine ⟨lexeme, _, _, ?_, record_tokens _ _ _ _ _, ?_, record_errors _ _ _ _ _, rfl, ?_, ?_⟩
  · rw [behind_cursor]
    exact faces.textSince
  · rw [Located.token?_eq]
    cases finding.kind? <;> rfl
  · intro token member
    rw [behind_cursor]
    exact Located.of_token? (Option.mem_toList.mp member)
  · intro error member
    rw [behind_cursor]
    exact Located.span_of_mem_errors member

theorem accepts_behind (faces : state.cursor.Faces size (lexeme ++ rest)) (nonempty : lexeme ≠ [])
    (ofScanner : finding.OfScanner) : state.Accepts (state.behind options finding lexeme) := by
  have adds := @adds_behind options state finding lexeme rest size faces
  constructor
  case source => rw [behind_cursor, Cursor.past_source]
  case forward =>
    have positive := Text.byteLength_pos nonempty
    rw [behind_cursor, Cursor.past_place, Place.position_past]
    omega
  case records =>
    rcases Located.errors_cases options state.latest (state.ahead finding lexeme) with
      silent | ⟨cause, one, which⟩
    · rw [silent] at adds
      cases finding with
      | token kind => exact .inl ⟨kind, adds⟩
      | openComment => exact .inl ⟨.blockComment, adds⟩
      | error cause => exact absurd silent (by simp [Located.errors, ahead])
    · rw [one] at adds
      rcases which with ⟨before, rfl, isOperator⟩ | ⟨rfl, isOpen⟩ | spoiled
      · obtain rfl : finding = .token .operator := isOperator
        exact .inr (.inr (.inl adds))
      · obtain rfl : finding = .openComment := isOpen
        exact .inr (.inr (.inr adds))
      · obtain rfl : finding = .error cause := spoiled
        exact .inr (.inl ⟨cause.code, ofScanner, adds⟩)

end LexingState

/-! ## States in front of a lexeme -/

namespace Scanner

/-- States of a run in which a lexeme is about to be scanned: blanks are skipped, and the text goes
on. -/
inductive AtLexeme (options : LexingOptions) (source : String) : LexingState → Prop
  | first {state : LexingState}
      (skipped : skipBlanks { cursor := Cursor.ofText source.toList } = .ok state)
      (goesOn : state.cursor.isAtEnd = false) : AtLexeme options source state
  | later {before passed state : LexingState} (reached : AtLexeme options source before)
      (stepped : step options before = .ok passed) (skipped : skipBlanks passed = .ok state)
      (goesOn : state.cursor.isAtEnd = false) : AtLexeme options source state

variable {options : LexingOptions} {source : String} {state passed : LexingState}

/-- A cursor behind a part of the source has the other part ahead. -/
private theorem faces_behind {front back : List Char} (split : source.toList = front ++ back) :
    ((Cursor.ofText source.toList).past front).Faces (source.length + 1) back := by
  have faces := Cursor.faces_ofText source.toList
  rw [String.length_toList] at faces
  refine Cursor.Faces.past ?_
  rwa [← split]

/-- Skipping blanks goes on in the source, and where it does not come to the end, a character is
ahead. -/
private theorem exists_front_of_skipBlanks {front back : List Char}
    (split : source.toList = front ++ back)
    (there : passed.cursor = (Cursor.ofText source.toList).past front)
    (skipped : skipBlanks passed = .ok state) (goesOn : state.cursor.isAtEnd = false) :
    ∃ front c others, source.toList = front ++ c :: others ∧
      state.cursor = (Cursor.ofText source.toList).past front := by
  have faces : passed.cursor.Faces (source.length + 1) back := there ▸ faces_behind split
  obtain ⟨gap, rest, rfl, scans, _⟩ := skipBlanks_agrees faces
  obtain rfl := scans.eq_of_ok skipped
  have atEnd : (passed.moved (passed.cursor.past gap)).cursor.isAtEnd = rest.isEmpty :=
    faces.past.isAtEnd
  rw [atEnd, List.isEmpty_eq_false_iff] at goesOn
  obtain ⟨c, others, rfl⟩ := List.exists_cons_of_ne_nil goesOn
  refine ⟨front ++ gap, c, others, by rw [split, List.append_assoc], ?_⟩
  rw [LexingState.moved, there, Cursor.past_past]

/-- In front of a lexeme a run stands behind a part of its source, with a character ahead. -/
theorem AtLexeme.exists_front (reached : AtLexeme options source state) :
    ∃ front c others, source.toList = front ++ c :: others ∧
      state.cursor = (Cursor.ofText source.toList).past front := by
  induction reached with
  | first skipped goesOn =>
    exact @exists_front_of_skipBlanks source _ _ [] _ rfl (Cursor.past_nil _).symm skipped goesOn
  | @later before passed state _ stepped skipped goesOn ih =>
    obtain ⟨front, c, others, split, there⟩ := ih
    have faces : before.cursor.Faces (source.length + 1) (c :: others) := there ▸ faces_behind split
    obtain ⟨finding, lexeme, rest, same, _, steps, _⟩ := step_agrees faces
    obtain rfl := steps.eq_of_ok stepped
    rw [same, ← List.append_assoc] at split
    refine exists_front_of_skipBlanks split ?_ skipped goesOn
    rw [LexingState.behind_cursor, there, Cursor.past_past]

theorem AtLexeme.exists_faces (reached : AtLexeme options source state) :
    ∃ c others, state.cursor.Faces (source.length + 1) (c :: others) := by
  obtain ⟨front, c, others, split, there⟩ := reached.exists_front
  exact ⟨c, others, there ▸ faces_behind split⟩

/-! ## The protocol -/

/-- A scanner that declines changes nothing, and one that accepts moves on and records one lexeme.
Where all decline, one character is passed and reported. So a run is over after at most as many
steps as its text has characters, and stands at the end then. Only a counter without room stops it
short. -/
theorem scan_protocol (options : LexingOptions) (source : String) :
    (∀ state, AtLexeme options source state →
      (∀ family, ∃ accepted after,
        Yields (source.length + 1) (scan options state.cursor.place family state)
          (accepted, after) ∧
        Yields (source.length + 1) (state.scan options family) (accepted, after) ∧
        if accepted then state.Accepts after else after = state) ∧
      ((∀ family, scan options state.cursor.place family state = .ok (false, state)) →
        ∃ c after, state.cursor.look 0 = .ok c ∧
          Yields (source.length + 1) (step options state) after ∧
          Yields (source.length + 1) (state.step options) after ∧
          after.cursor.place = state.cursor.place.after c ∧ state.Adds after [] [.unrecognized])) ∧
    ∃ final,
      Yields (source.length + 1)
        (run options source.length { cursor := Cursor.ofText source.toList }) final ∧
      Yields (source.length + 1)
        (LexingState.run options source.length { cursor := Cursor.ofText source.toList }) final ∧
      final.cursor.source = source.toList ∧ final.cursor.place.position = source.utf8ByteSize := by
  refine ⟨?_, ?_⟩
  · intro state reached
    obtain ⟨c, others, faces⟩ := reached.exists_faces
    refine ⟨?_, ?_⟩
    · intro family
      obtain ⟨answer, scans, reads,
          rfl | ⟨finding, lexeme, rest, split, nonempty, ofScanner, rfl⟩⟩ :=
        @scan_agrees options state c others _ family faces
      · exact ⟨false, state, scans, reads, rfl⟩
      · exact ⟨true, _, scans, reads, LexingState.accepts_behind (split ▸ faces) nonempty ofScanner⟩
    · intro declined
      have declines := scanFirst_of_declined fun family (_ : family ∈ Family.all) => declined family
      rcases @scanFirst_agrees options state c others _ Family.all faces with
        ⟨scans, reads⟩ | ⟨_, _, _, _, _, accepted, _⟩
      · obtain ⟨steps, readSteps⟩ := step_of_declined faces scans reads
        refine ⟨c, _, faces.look_head, steps, readSteps, ?_, ?_⟩
        · rw [LexingState.behind_cursor]
          rfl
        · exact @LexingState.adds_behind options state (.error (.unrecognized c)) [c] others _ faces
      · cases accepted.eq_of_ok declines
  · have faces := Cursor.faces_ofText source.toList
    rw [String.length_toList] at faces
    obtain ⟨final, ran, readRan, there⟩ :=
      @run_agrees options { cursor := Cursor.ofText source.toList } _ _ source.length faces
        (by rw [String.length_toList])
    refine ⟨final, ran, readRan, ?_, ?_⟩
    · rw [there]
      rfl
    · rw [there, Cursor.past_place, Place.position_past, Text.byteLength_toList]
      exact Nat.zero_add _

/-- In front of a minus sign that begins no number, the scanner of numbers goes back and the one of
operators accepts. -/
theorem scan_protocol_minus :
    ∃ state after, AtLexeme {} "5 -x" state ∧ state.cursor.place = ⟨2, 1, 3⟩ ∧
      scan {} state.cursor.place .number state = .ok (false, state) ∧
      scan {} state.cursor.place .operator state = .ok (true, after) ∧ state.Accepts after := by
  have found : (do
      let first ← skipBlanks { cursor := Cursor.ofText "5 -x".toList }
      let passed ← step {} first
      let state ← skipBlanks passed
      let number ← scan {} state.cursor.place .number state
      let operator ← scan {} state.cursor.place .operator state
      return (first.cursor.isAtEnd, state.cursor.isAtEnd, state.cursor.place, number.1,
        operator.1)) =
      .ok (false, false, ⟨2, 1, 3⟩, false, true) := by
    decide +kernel
  obtain ⟨first, skipped, found⟩ := exists_of_bind_eq_ok found
  obtain ⟨passed, stepped, found⟩ := exists_of_bind_eq_ok found
  obtain ⟨state, next, found⟩ := exists_of_bind_eq_ok found
  obtain ⟨⟨declined, same⟩, number, found⟩ := exists_of_bind_eq_ok found
  obtain ⟨⟨accepted, after⟩, operator, found⟩ := exists_of_bind_eq_ok found
  obtain ⟨starts, goesOn, place, rfl, rfl⟩ : first.cursor.isAtEnd = false ∧
      state.cursor.isAtEnd = false ∧ state.cursor.place = ⟨2, 1, 3⟩ ∧ declined = false ∧
      accepted = true := by
    simpa only [Prod.mk.injEq] using Except.ok.inj found
  have reached : AtLexeme {} "5 -x" state := .later (.first skipped starts) stepped next goesOn
  have answers := ((scan_protocol {} "5 -x").1 state reached).1
  obtain ⟨_, _, scansNumber, _, unchanged⟩ := answers .number
  obtain ⟨_, _, scansOperator, _, moved⟩ := answers .operator
  obtain ⟨rfl, rfl⟩ := Prod.mk.inj (scansNumber.eq_of_ok number)
  obtain ⟨rfl, rfl⟩ := Prod.mk.inj (scansOperator.eq_of_ok operator)
  obtain rfl : same = state := unchanged
  exact ⟨same, after, reached, place, number, operator, moved⟩

end Scanner

end ScriptLexer
