import ScriptLexer.Proofs.Scanner.Protocol

/-!
# What becomes of a lexeme

A rule for a family says which lexeme stands ahead and what is recorded of it. The state behind the
lexeme is written out in full: the cursor has passed the lexeme, and the records have grown by just
the tokens and errors of the outcome.
-/
namespace ScriptLexer

/-- What is recorded of a lexeme: the kinds of its tokens, and the codes and messages of its
errors. -/
structure Outcome where
  kinds : List Token.Kind := []
  reports : List (ErrorCode × String) := []

namespace Outcome

def token (kind : Token.Kind) : Outcome := { kinds := [kind] }

def error (code : ErrorCode) (message : String) : Outcome := { reports := [(code, message)] }

end Outcome

/-- What is recorded of a lexeme that is found to be this. What is recorded of an operator depends
on the operator before it as well. -/
def Finding.outcome (options : LexingOptions) (lexeme : String) : Finding → Outcome
  | .token kind => .token kind
  | .openComment => {
      kinds := [.blockComment]
      reports :=
        if options.reportOpenComments then
          [(.unterminatedComment, Cause.openComment.message lexeme)]
        else
          [] }
  | .error cause => .error cause.code (cause.message lexeme)

/-- At the beginning of the text the reading takes the lexeme, and finds it to be what has this
outcome. -/
def Reading.Gives (options : LexingOptions) (reading : Reading) (text lexeme : List Char)
    (outcome : Outcome) : Prop :=
  ∃ finding rest, text = lexeme ++ rest ∧ reading = { finding, length := lexeme.length } ∧
    finding ≠ .token .operator ∧ finding.outcome options (String.ofList lexeme) = outcome

namespace LexingState

/-- The state behind a lexeme that stands ahead, with the outcome recorded on its span. -/
def recorded (lexeme : List Char) (outcome : Outcome) (state : LexingState) : LexingState :=
  let span := Span.between state.cursor.place (state.cursor.place.past lexeme)
  { cursor := state.cursor.past lexeme
    tokens :=
      outcome.kinds.map (fun kind => { kind, lexeme := String.ofList lexeme, span }) ++ state.tokens
    errors :=
      outcome.reports.map (fun (code, message) =>
        { code, message, lexeme := String.ofList lexeme, span }) ++ state.errors }

theorem behind_eq_recorded {options : LexingOptions} {state : LexingState} {finding : Finding}
    {lexeme : List Char} (noOperator : finding ≠ .token .operator) :
    state.behind options finding lexeme =
      state.recorded lexeme (finding.outcome options (String.ofList lexeme)) := by
  cases finding with
  | token kind =>
    cases kind with
    | operator => exact absurd rfl noOperator
    | _ => rfl
  | openComment =>
    unfold behind record recorded Finding.outcome
    cases options.reportOpenComments <;> rfl
  | error cause => rfl

end LexingState

namespace Scanner

variable {options : LexingOptions} {source : String} {state after : LexingState} {family : Family}
  {finding : Finding} {outcome : Outcome} {text lexeme rest : List Char} {size : Nat}

/-- In front of a lexeme the text ahead is not empty, and there is room to count its characters. -/
theorem AtLexeme.faces (reached : AtLexeme options source state)
    (ahead : state.cursor.remaining = .ok text) :
    state.cursor.Faces (source.length + 1) text ∧ text ≠ [] := by
  obtain ⟨c, others, faces⟩ := reached.exists_faces
  obtain rfl : c :: others = text := Except.ok.inj (faces.remaining.symm.trans ahead)
  exact ⟨faces, List.cons_ne_nil c others⟩

/-- The first lexeme of a source is behind the blanks that the source begins with. -/
theorem exists_atLexeme (options : LexingOptions) (short : source.length + 1 < counterLimit)
    {gap : List Char} (split : source.toList = gap ++ text) (blank : ∀ c ∈ gap, isBlank c = true)
    (begins : ∃ c ∈ text.head?, isBlank c = false) :
    ∃ state, AtLexeme options source state ∧ state.cursor.remaining = .ok text := by
  obtain ⟨c, next, noBlank⟩ := begins
  obtain ⟨others, rfl⟩ := List.head?_eq_some_iff.mp next
  have faces := Cursor.faces_ofText source.toList
  rw [String.length_toList] at faces
  have whole : (Cursor.ofText source.toList).Faces (source.length + 1) (gap ++ c :: others) := by
    rwa [← split]
  have skipped := (whole.eatWhile blank (Stops.some_iff.mpr noBlank)).map fun stop =>
    ({ cursor := Cursor.ofText source.toList } : LexingState).moved stop
  have behind : ((Cursor.ofText source.toList).past gap).Faces (source.length + 1) (c :: others) :=
    whole.past
  exact ⟨_, .first (skipped.eq_ok short) behind.isAtEnd, behind.remaining⟩

/-- The scanner of the family gives this answer, and the family gives it by reading ahead. -/
structure Answers (options : LexingOptions) (size : Nat) (family : Family) (state : LexingState)
    (answer : Bool × LexingState) : Prop where
  scans : Yields size (scan options state.cursor.place family state) answer
  reads : Yields size (state.scan options family) answer

/-- A step comes to this state, and so does a step that reads ahead. -/
structure Steps (options : LexingOptions) (size : Nat) (state after : LexingState) : Prop where
  scans : Yields size (step options state) after
  reads : Yields size (state.step options) after

/-- A scanner declines where its family reads nothing. -/
theorem answers_of_declined (faces : state.cursor.Faces size text) (nonempty : text ≠ [])
    (declined : family.read text = .ok none) :
    Answers options size family state (false, state) := by
  obtain ⟨c, others, rfl⟩ := List.exists_cons_of_ne_nil nonempty
  rcases @tries options state c others size family faces with
    ⟨scans, reads⟩ | ⟨finding, lexeme, rest, split, found⟩
  · exact ⟨scans, scan_of_declined faces reads⟩
  · rw [split] at declined
    have absent := found.reads.eq_of_ok declined
    cases absent

theorem answers_of_finds (faces : state.cursor.Faces size (lexeme ++ rest))
    (found : Finds options family state size finding lexeme rest) :
    Answers options size family state (true, state.behind options finding lexeme) :=
  ⟨found.scans, scan_of_reads faces found.reads⟩

/-- A scanner passes what its family reads, and records it as what it is found to be. -/
theorem answers_of_reads (faces : state.cursor.Faces size (lexeme ++ rest))
    (nonempty : lexeme ++ rest ≠ [])
    (reads : family.read (lexeme ++ rest) = .ok (some { finding, length := lexeme.length })) :
    Answers options size family state (true, state.behind options finding lexeme) := by
  obtain ⟨c, others, same⟩ := List.exists_cons_of_ne_nil nonempty
  rcases @tries options state c others size family (same ▸ faces) with
    ⟨_, declined⟩ | ⟨other, otherLexeme, otherRest, split, found⟩
  · rw [← same, reads] at declined
    cases declined
  · rw [← same] at split
    have read := found.reads
    rw [← split] at read
    obtain ⟨rfl, length⟩ := Reading.mk.inj (Option.some.inj (read.eq_of_ok reads))
    obtain rfl := List.append_inj_left split length
    exact answers_of_finds (split ▸ faces) found

/-- What a reading gives is passed and recorded. -/
theorem answers_of_gives {reading : Reading} (faces : state.cursor.Faces size text)
    (nonempty : text ≠ []) (reads : family.read text = .ok (some reading))
    (gives : reading.Gives options text lexeme outcome) :
    Answers options size family state (true, state.recorded lexeme outcome) := by
  obtain ⟨finding, rest, rfl, rfl, noOperator, rfl⟩ := gives
  rw [← LexingState.behind_eq_recorded noOperator]
  exact answers_of_reads faces nonempty reads

/-- The families are asked in turn, and the first that accepts has its way. -/
theorem scanFirst_of_answers {before later : List Family}
    (declined : ∀ other ∈ before, Answers options size other state (false, state))
    (accepted : Answers options size family state (true, after)) :
    Yields size (scanFirst options state.cursor.place (before ++ family :: later) state)
        (true, after) ∧
      Yields size (state.scanFirst options (before ++ family :: later)) (true, after) := by
  induction before with
  | nil => exact ⟨accepted.scans.bind (.ok size _), accepted.reads.bind (.ok size _)⟩
  | cons other before ih =>
    have here := declined other List.mem_cons_self
    obtain ⟨scans, reads⟩ := ih fun next member => declined next (List.mem_cons_of_mem _ member)
    exact ⟨here.scans.bind scans, here.reads.bind reads⟩

theorem steps_of_answers (before : List Family) {later : List Family}
    (order : Family.all = before ++ family :: later)
    (declined : ∀ other ∈ before, Answers options size other state (false, state))
    (accepted : Answers options size family state (true, after)) :
    Steps options size state after := by
  obtain ⟨scans, reads⟩ :=
    @scanFirst_of_answers options state after family size before later declined accepted
  refine ⟨?_, ?_⟩
  · unfold step
    rw [order]
    exact scans.bind (.ok size _)
  · unfold LexingState.step
    rw [order]
    exact reads.bind (.ok size _)

/-- The scanner of the family passes the lexeme and records the outcome, and what it does is the
whole step; so it is where the text is read ahead. -/
structure Passes (options : LexingOptions) (size : Nat) (family : Family) (state : LexingState)
    (lexeme : List Char) (outcome : Outcome) : Prop where
  answers : Answers options size family state (true, state.recorded lexeme outcome)
  steps : Steps options size state (state.recorded lexeme outcome)

/-- Where a family has a lexeme whose first character opens none of a family before it, that lexeme
is the step. -/
theorem passes_of_opens (family : Family) (before : List Family) {later : List Family} {c : Char}
    (order : Family.all = before ++ family :: later) (faces : state.cursor.Faces size text)
    (next : text.head? = some c) (closed : ∀ other ∈ before, other.opens c = false)
    (split : text = lexeme ++ rest)
    (reads : family.read text = .ok (some { finding, length := lexeme.length }))
    (noOperator : finding ≠ .token .operator) :
    Passes options size family state lexeme (finding.outcome options (String.ofList lexeme)) := by
  obtain ⟨others, rfl⟩ := List.head?_eq_some_iff.mp next
  have nonempty := List.cons_ne_nil c others
  have gives : Reading.Gives options { finding, length := lexeme.length } (c :: others) lexeme
      (finding.outcome options (String.ofList lexeme)) :=
    ⟨finding, rest, split, rfl, noOperator, rfl⟩
  have answers := answers_of_gives faces nonempty reads gives
  refine ⟨answers, steps_of_answers before order ?_ answers⟩
  intro other member
  exact answers_of_declined faces nonempty (Family.read_of_not_opens (closed other member) others)

/-- The scanner and the step, and those that read ahead, come to the state behind the lexeme without
a fault. -/
structure Emits (options : LexingOptions) (family : Family) (state : LexingState)
    (lexeme : List Char) (outcome : Outcome) : Prop where
  scans : scan options state.cursor.place family state = .ok (true, state.recorded lexeme outcome)
  reads : state.scan options family = .ok (true, state.recorded lexeme outcome)
  steps : step options state = .ok (state.recorded lexeme outcome)
  readSteps : state.step options = .ok (state.recorded lexeme outcome)

theorem Passes.emits (passes : Passes options size family state lexeme outcome)
    (short : size < counterLimit) : Emits options family state lexeme outcome :=
  ⟨passes.answers.scans.eq_ok short, passes.answers.reads.eq_ok short,
    passes.steps.scans.eq_ok short, passes.steps.reads.eq_ok short⟩

end Scanner

end ScriptLexer
