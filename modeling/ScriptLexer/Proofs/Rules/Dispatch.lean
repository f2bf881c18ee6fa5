import ScriptLexer.Proofs.Coverage
import ScriptLexer.Proofs.Rules.Leads
import ScriptLexer.Proofs.TokenLanguages

/-!
# Dispatch

What is recorded of a lexeme is of the family that the text ahead of it leads to, and the scanners
that are asked before the one of that family decline.
-/
namespace ScriptLexer

open Grammar

/-- What may be recorded of a lexeme of the family: the kinds of its tokens and the codes of its
errors. -/
def Family.records : Family → List (List Token.Kind × List ErrorCode)
  | newlines => [([.newline], [])]
  | comment =>
    [([.lineComment], []), ([.blockComment], []), ([.blockComment], [.unterminatedComment])]
  | quoted => [([.string], []), ([], [.unterminatedString])]
  | number =>
    [([.integer], []), ([.double], []), ([], [.malformedNumber]), ([], [.illegalIdentifier])]
  | word => [([.keyword], []), ([.identifier], [])]
  | operator => [([.operator], []), ([.operator], [.operatorSequence])]
  | punctuation => [([.punctuation], [])]

namespace Lexing

/-- One character is reported on the span as one that begins no lexeme, and nothing else is recorded
there. -/
def Unrecognized (lexing : Lexing) (span : Span) : Prop :=
  lexing.tokensAt span = [] ∧
    ∃ error, lexing.errorsAt span = [error] ∧ error.code = .unrecognized ∧ error.lexeme.length = 1

/-- What is recorded on the span is of the family that the text ahead leads to; where it leads to
none, one character is reported. -/
def Dispatched (lexing : Lexing) (span : Span) (ahead : List Char) : Prop :=
  match familyAt (ahead.take 3) with
  | some family =>
    ((lexing.tokensAt span).map Token.kind, (lexing.errorsAt span).map LexicalError.code) ∈
      family.records
  | none => lexing.Unrecognized span

/-- Where a text leads to no family, one character is reported, and nowhere else. -/
theorem Dispatched.unrecognized_iff {lexing : Lexing} {span : Span} {ahead : List Char}
    (dispatched : lexing.Dispatched span ahead) :
    lexing.Unrecognized span ↔ familyAt ahead = none := by
  unfold Dispatched at dispatched
  rw [familyAt_take] at dispatched
  cases led : familyAt ahead with
  | none =>
    rw [led] at dispatched
    simpa using dispatched
  | some family =>
    rw [led] at dispatched
    refine iff_of_false ?_ (by simp)
    rintro ⟨noToken, error, one, code, _⟩
    have never : ([], [.unrecognized]) ∉ family.records := by cases family <;> decide
    rw [noToken, one, List.map_nil, List.map_singleton, code] at dispatched
    exact never dispatched

end Lexing

/-- The records of a lexeme are among those of its family. -/
theorem Located.mem_records {located : Located} {family : Family} (options : LexingOptions)
    (previous : Option Token) (isFamily : located.finding.family? = some family) :
    (located.token?.toList.map Token.kind,
      (located.errors options previous).map LexicalError.code) ∈ family.records := by
  rw [token?_eq]
  cases found : located.finding with
  | token kind =>
    rw [found] at isFamily
    obtain rfl := Option.some.inj isFamily
    cases kind with
    | operator =>
      simp only [errors, found]
      cases clashing previous located.lexeme with
      | none => simp [Finding.kind?, Token.Kind.family, Family.records]
      | some before =>
        simp [Finding.kind?, Token.Kind.family, Family.records, LexicalError.ofCause, Cause.code]
    | _ => simp [errors, found, Finding.kind?, Token.Kind.family, Family.records]
  | openComment =>
    rw [found] at isFamily
    obtain rfl := Option.some.inj isFamily
    cases asked : options.reportOpenComments <;>
      simp [errors, found, asked, Finding.kind?, Family.records, LexicalError.ofCause, Cause.code]
  | error cause =>
    rw [found] at isFamily
    cases cause <;> cases isFamily <;>
      simp [errors, found, Finding.kind?, Family.records, LexicalError.ofCause, Cause.code]

/-- What is recorded of a located lexeme is of the family that the text at its span leads to. -/
theorem dispatched_ofPieces (options : LexingOptions) {pieces : List Piece} {tail : List Char}
    (divides : Divides pieces tail) {located : Located} (member : located ∈ locate {} pieces) :
    ∃ ahead, Text.dropBytes located.span.start (textOf pieces tail) = some ahead ∧
      (Lexing.ofPieces options pieces).Dispatched located.span ahead := by
  have ordered := @locate_pairwise {} pieces tail divides
  have tokens : (Lexing.ofPieces options pieces).tokensAt located.span = located.token?.toList :=
    tokensOf_filter member ordered
  obtain ⟨latest, errors⟩ : ∃ latest,
      (Lexing.ofPieces options pieces).errorsAt located.span = located.errors options latest :=
    errorsOf_filter options none member ordered
  obtain ⟨front, back, split, start, _, stands⟩ := exists_around divides member
  refine ⟨located.lexeme.toList ++ back,
    Text.dropBytes_eq_some_iff.mpr ⟨front, split, start.symm⟩, ?_⟩
  unfold Lexing.Dispatched
  rw [familyAt_take, familyAt_of_stands stands]
  cases isFamily : located.finding.family? with
  | some family =>
    rw [tokens, errors]
    exact Located.mem_records options latest isFamily
  | none =>
    have form := stands.form
    cases found : located.finding with
    | token kind =>
      rw [found] at isFamily
      cases isFamily
    | openComment =>
      rw [found] at isFamily
      cases isFamily
    | error cause =>
      rw [found] at form isFamily
      have one : located.errors options latest =
          [LexicalError.ofCause cause located.lexeme located.span] := by
        rw [Located.errors, found]
      have noToken : located.token? = none := by
        rw [Located.token?, found]
      cases cause with
      | unrecognized c =>
        obtain ⟨_, single⟩ := form
        refine ⟨by rw [tokens, noToken]; rfl, _, errors.trans one, rfl, ?_⟩
        rw [LexicalError.ofCause, ← String.length_toList, single]
        rfl
      | operatorSequence previous => exact absurd form id
      | openComment => exact absurd form id
      | _ => cases isFamily

/-! ## Who is asked -/

/-- In front of the text ahead, the scanners before the one of the family that the text leads to
decline and change nothing, and that one accepts; where the text leads to none, all decline. -/
def Scanner.Dispatches (options : LexingOptions) (size : Nat) (state : LexingState)
    (ahead : List Char) : Prop :=
  match familyAt (ahead.take 3) with
  | some family => ∃ before later, Family.all = before ++ family :: later ∧
      (∀ other ∈ before, Answers options size other state (false, state)) ∧
      ∃ after, Answers options size family state (true, after)
  | none => ∀ family, Answers options size family state (false, state)

theorem Scanner.AtLexeme.dispatches {options : LexingOptions} {source : String}
    {state : LexingState} {ahead : List Char} (reached : AtLexeme options source state)
    (faced : state.cursor.remaining = .ok ahead) :
    Dispatches options (source.length + 1) state ahead := by
  obtain ⟨faces, nonempty⟩ := reached.faces faced
  unfold Dispatches
  rw [familyAt_take]
  cases led : familyAt ahead with
  | none =>
    rw [familyAt_eq_none_iff] at led
    intro family
    exact answers_of_declined faces nonempty
      (Family.read_eq_none_of_not_leads (led .number) (led family))
  | some family =>
    obtain ⟨leads, before, later, order, apart⟩ := List.find?_eq_some_iff_append.mp led
    refine ⟨before, later, order, ?_, ?_⟩
    · intro other member
      have notLed : other.leads ahead = false := by simpa using apart other member
      refine answers_of_declined faces nonempty ((Family.read_eq_none_iff ?_).mpr notLed)
      -- Punctuation is the last family, so it is before none.
      rintro rfl
      have early : before <+: Family.all.dropLast := by
        rw [order, List.dropLast_append_of_ne_nil (by simp)]
        exact List.prefix_append _ _
      exact absurd (early.subset member) (by decide)
    · obtain ⟨c, others, rfl⟩ := List.exists_cons_of_ne_nil nonempty
      rcases @tries options state c others _ family faces with
        ⟨_, declined⟩ | ⟨finding, lexeme, rest, split, found⟩
      · exact absurd declined (Family.read_ne_none_of_leads leads)
      · exact ⟨_, answers_of_finds (split ▸ faces) found⟩

/-- Three characters decide the family of every lexeme. What is recorded at its span is of that
family, or one character is reported where there is none; so the point is never a punctuation sign,
an exclamation mark is reported unless it goes on as an operator, and so are all characters beyond
ASCII and all control characters that are no white space. In every state in front of a lexeme the
scanners asked before the deciding one decline. -/
theorem lexText_dispatch (options : LexingOptions) (source : String) :
    ((∃ lexing, lexText options source = .ok lexing ∧
        (∀ span ∈ lexing.spans, ∃ ahead, Text.dropBytes span.start source.toList = some ahead ∧
          lexing.Dispatched span ahead ∧
          (∀ others, ahead = '!' :: others → (lexing.Unrecognized span ↔ others.head? ≠ some '=')) ∧
          ∀ c ∈ ahead.head?, 128 ≤ c.toNat ∨ c.toNat < 32 ∨ c.toNat = 127 → c ∉ ['\t', '\n', '\r'] →
            lexing.Unrecognized span) ∧
        ∀ token ∈ lexing.tokens, token.kind = .punctuation → token.lexeme ≠ ".") ∨
      lexText options source = .error .counterOverflow ∧ counterLimit ≤ source.length + 1) ∧
    ∀ state ahead, Scanner.AtLexeme options source state → state.cursor.remaining = .ok ahead →
      Scanner.Dispatches options (source.length + 1) state ahead := by
  refine ⟨?_, fun state ahead reached faced => reached.dispatches faced⟩
  obtain ⟨pieces, tail, same, divides⟩ := exists_division source.toList
  rcases lexText_yields options divides same.symm with done | failed
  · refine .inl ⟨_, done, ?_, ?_⟩
    · intro span among
      rw [Lexing.spans_ofPieces options divides] at among
      obtain ⟨located, member, rfl⟩ := List.mem_map.mp among
      obtain ⟨ahead, dropped, dispatched⟩ := dispatched_ofPieces options divides member
      rw [same] at dropped
      refine ⟨ahead, dropped, dispatched, ?_, ?_⟩
      · rintro others rfl
        exact dispatched.unrecognized_iff.trans familyAt_exclamation
      · intro c next outside noBlank
        obtain ⟨others, rfl⟩ := List.head?_eq_some_iff.mp next
        have noBreak : c ≠ '\n' := by
          rintro rfl
          exact noBlank (by simp)
        exact dispatched.unrecognized_iff.mpr (familyAt_eq_none_of_range outside noBreak others)
    · intro token among isPunctuation point
      have language := language_of_mem_tokensOf divides among
      rw [isPunctuation, point] at language
      obtain ⟨c, sign, single⟩ := language
      obtain rfl : '.' = c := (List.cons.inj single).1
      exact absurd sign (by decide)
  · exact .inr failed

/-- The first exclamation mark goes on as an operator, and the second one does not. -/
theorem lexText_dispatch_exclamation :
    ∃ lexing, lexText {} "!=!\x7f" = .ok lexing ∧ ¬ lexing.Unrecognized ⟨0, 2, 1, 1⟩ ∧
      lexing.Unrecognized ⟨2, 3, 1, 3⟩ ∧ lexing.Unrecognized ⟨3, 4, 1, 4⟩ := by
  rcases (lexText_dispatch {} "!=!\x7f").1 with ⟨lexing, lexed, dispatched, _⟩ | ⟨_, long⟩
  · have found : lexText {} "!=!\x7f" = .ok {
        tokens := [⟨.operator, "!=", ⟨0, 2, 1, 1⟩⟩]
        errors := [LexicalError.ofCause (.unrecognized '!') "!" ⟨2, 3, 1, 3⟩,
          LexicalError.ofCause (.unrecognized '\x7f') "\x7f" ⟨3, 4, 1, 4⟩] } := by
      decide +kernel
    obtain rfl := Except.ok.inj (found.symm.trans lexed)
    obtain ⟨first, dropped, _, operator, _⟩ := dispatched ⟨0, 2, 1, 1⟩ (by simp [Lexing.spans])
    obtain rfl : "!=!\x7f".toList = first := Option.some.inj dropped
    obtain ⟨second, dropped, _, mark, _⟩ :=
      dispatched ⟨2, 3, 1, 3⟩ (by simp [Lexing.spans, LexicalError.ofCause])
    obtain rfl : "!\x7f".toList = second := Option.some.inj dropped
    obtain ⟨third, dropped, _, _, control⟩ :=
      dispatched ⟨3, 4, 1, 4⟩ (by simp [Lexing.spans, LexicalError.ofCause])
    obtain rfl : "\x7f".toList = third := Option.some.inj dropped
    exact ⟨_, lexed, fun reported => (operator _ rfl).mp reported rfl, (mark _ rfl).mpr (by decide),
      control '\x7f' rfl (by decide) (by decide)⟩
  · exact absurd long (by decide)

end ScriptLexer
