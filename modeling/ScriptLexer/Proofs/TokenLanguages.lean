import ScriptLexer.Proofs.Run

/-!
# Languages of the tokens

The kind of a token and its lexeme agree both ways: the lexeme of a token is in the language of its
kind, and a text of that language, lexed alone, is one token of the kind and nothing else.
-/
namespace ScriptLexer

open Grammar

/-- From the first character of a text to its last. -/
def Span.whole (source : String) : Span :=
  { start := 0, stop := source.utf8ByteSize, line := 1, column := 1 }

/-- A block comment may be closed or open; every other kind of token comes from one finding. -/
theorem language_iff {kind : Token.Kind} {text : List Char} :
    kind.Language text ↔ ∃ finding : Finding, finding.kind? = some kind ∧ finding.Form text := by
  constructor
  · intro language
    cases kind with
    | blockComment =>
      rcases language with closed | unclosed
      · exact ⟨.token .blockComment, rfl, closed⟩
      · exact ⟨.openComment, rfl, unclosed⟩
    | newline => exact ⟨.token .newline, rfl, language⟩
    | lineComment => exact ⟨.token .lineComment, rfl, language⟩
    | string => exact ⟨.token .string, rfl, language⟩
    | integer => exact ⟨.token .integer, rfl, language⟩
    | double => exact ⟨.token .double, rfl, language⟩
    | keyword => exact ⟨.token .keyword, rfl, language⟩
    | identifier => exact ⟨.token .identifier, rfl, language⟩
    | operator => exact ⟨.token .operator, rfl, language⟩
    | punctuation => exact ⟨.token .punctuation, rfl, language⟩
  · rintro ⟨finding, isKind, form⟩
    cases finding with
    | openComment =>
      obtain rfl := Option.some.inj isKind
      exact .inr form
    | error cause => cases isKind
    | token found =>
      obtain rfl := Option.some.inj isKind
      cases found with
      | blockComment => exact .inl form
      | _ => exact form

/-- The tokens of a division have lexemes of their kinds. -/
theorem language_of_mem_tokensOf {pieces : List Piece} {tail : List Char}
    (divides : Divides pieces tail) {token : Token} (member : token ∈ tokensOf (locate {} pieces)) :
    token.kind.Language token.lexeme.toList := by
  obtain ⟨located, among, found⟩ := exists_of_mem_tokensOf member
  rw [(Located.of_token? found).1]
  exact language_iff.mpr
    ⟨located.finding, Located.kind?_of_token? found, divides.form_of_mem_locate located among⟩

/-- The forms of different findings have no text in common. -/
theorem Finding.Form.unique {finding other : Finding} {text : List Char} (form : finding.Form text)
    (also : other.Form text) (short : text.length < counterLimit) : finding = other := by
  have stands : Stands finding text [] := ⟨form, Finding.ends_none finding text⟩
  have alsoStands : Stands other text [] := ⟨also, Finding.ends_none other text⟩
  exact (stands.unique alsoStands rfl (by rwa [List.append_nil])).1

/-- What a text that is one lexeme divides into. -/
theorem divides_whole {finding : Finding} {source : String} (form : finding.Form source.toList) :
    Divides [{ gap := [], lexeme := source.toList, finding }] [] :=
  ⟨by simp, ⟨form, Finding.ends_none _ _⟩, by simp [Divides]⟩

/-- The records of a text that is one lexeme. -/
theorem Lexing.ofPieces_whole (options : LexingOptions) (finding : Finding) (source : String) :
    Lexing.ofPieces options [{ gap := [], lexeme := source.toList, finding }] = {
      tokens := (Located.token? { finding, lexeme := source, span := .whole source }).toList
      errors :=
        Located.errors options none { finding, lexeme := source, span := .whole source } } := by
  have located : locate {} [{ gap := [], lexeme := source.toList, finding }] =
      [{ finding, lexeme := source, span := .whole source }] := by
    simp [locate, Span.between, Span.whole]
  rw [Lexing.ofPieces, located, tokensOf_cons, errorsOf, errorsOf, List.append_nil]
  simp [tokensOf]

/-- A text of some form is lexed as one lexeme, unless a counter overflows. -/
theorem lexText_yields_of_form (options : LexingOptions) {finding : Finding} {source : String}
    (form : finding.Form source.toList) :
    Yields (source.length + 1) (lexText options source) {
      tokens := (Located.token? { finding, lexeme := source, span := .whole source }).toList
      errors :=
        Located.errors options none { finding, lexeme := source, span := .whole source } } := by
  rw [← Lexing.ofPieces_whole]
  exact lexText_yields options (divides_whole form) (by simp [textOf_cons])

/-- A text of some form is lexed as one lexeme. -/
theorem lexText_of_form (options : LexingOptions) {finding : Finding} {source : String}
    (short : source.length + 1 < counterLimit) (form : finding.Form source.toList) :
    lexText options source = .ok {
      tokens := (Located.token? { finding, lexeme := source, span := .whole source }).toList
      errors :=
        Located.errors options none { finding, lexeme := source, span := .whole source } } :=
  (lexText_yields_of_form options form).eq_ok short

/-- Every token is in the language of its kind, and a text in the language of a kind is lexed as one
token of it. The only error that may come along is the one about an open comment. -/
theorem lexText_languages (options : LexingOptions) {source : String}
    (short : source.length + 1 < counterLimit) :
    ∃ lexing, lexText options source = .ok lexing ∧
      (∀ token ∈ lexing.tokens, token.kind.Language token.lexeme.toList) ∧
      ∀ kind : Token.Kind, kind.Language source.toList →
        lexing.tokens = [{ kind, lexeme := source, span := .whole source }] ∧
          (IsOpenComment source.toList ∧ options.reportOpenComments = true →
            lexing.errors = [LexicalError.ofCause .openComment source (.whole source)]) ∧
          (¬ (IsOpenComment source.toList ∧ options.reportOpenComments = true) →
            lexing.errors = []) := by
  obtain ⟨pieces, tail, same, divides⟩ := exists_division source.toList
  have lexed := (lexText_yields options divides same.symm).eq_ok short
  refine ⟨_, lexed, fun token member => language_of_mem_tokensOf divides member, ?_⟩
  intro kind language
  obtain ⟨finding, isKind, form⟩ := language_iff.mp language
  have whole := lexText_of_form options short form
  rw [lexed, Except.ok.injEq] at whole
  rw [whole]
  refine ⟨by simp [Located.token?_eq, isKind], ?_, ?_⟩
  · rintro ⟨unclosed, reported⟩
    have openForm : Finding.openComment.Form source.toList := unclosed
    obtain rfl := form.unique openForm (by rw [String.length_toList]; omega)
    simp [Located.errors, reported]
  · intro silent
    cases finding with
    | token kind => cases kind <;> rfl
    | openComment =>
      have quiet : ¬ options.reportOpenComments = true := fun reported => silent ⟨form, reported⟩
      simp [Located.errors, quiet]
    | error cause => cases isKind

/-- A comment that opens twice and closes once is one token, and an error where that is asked
for. -/
theorem lexText_opened_twice :
    ∃ lexing, lexText { reportOpenComments := true } "<<<<<<>>>" = .ok lexing ∧
      lexing.tokens =
        [{ kind := .blockComment, lexeme := "<<<<<<>>>", span := .whole "<<<<<<>>>" }] ∧
      lexing.errors = [LexicalError.ofCause .openComment "<<<<<<>>>" (.whole "<<<<<<>>>")] := by
  have unclosed : IsOpenComment "<<<<<<>>>".toList := by
    refine ⟨opening ++ closing, by decide, ⟨opening, [], by decide⟩, ?_⟩
    simp [opening, closing, depthSteps, staysUp_cons, staysUp_nil]
  obtain ⟨lexing, lexed, _, whole⟩ :=
    @lexText_languages { reportOpenComments := true } "<<<<<<>>>" (by decide)
  obtain ⟨tokens, errors, _⟩ := whole .blockComment (.inr unclosed)
  exact ⟨lexing, lexed, tokens, errors ⟨unclosed, rfl⟩⟩

end ScriptLexer
