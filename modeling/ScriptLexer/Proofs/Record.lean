import ScriptLexer.Proofs.Division

/-!
# What is recorded of a division

The records of a text follow from its pieces alone: where a lexeme stands follows from the
characters before it, its token from what it is found to be, and its errors from that and from the
latest token that is not trivia.
-/
namespace ScriptLexer

/-- The kind of the token that is recorded for a finding. -/
def Finding.kind? : Finding → Option Token.Kind
  | .token kind => some kind
  | .openComment => some .blockComment
  | .error _ => none

/-- A lexeme in its place. -/
structure Located where
  finding : Finding
  lexeme : String
  span : Span

namespace Located

/-- The token of a lexeme; what is spoiled has none. -/
def token? (located : Located) : Option Token :=
  match located.finding with
  | .token kind => some { kind, lexeme := located.lexeme, span := located.span }
  | .openComment => some { kind := .blockComment, lexeme := located.lexeme, span := located.span }
  | .error _ => none

/-- The latest token that is not trivia, when `previous` was it before the lexeme. -/
def latest (previous : Option Token) (located : Located) : Option Token :=
  match located.token? with
  | some token => if token.kind.isTrivia then previous else some token
  | none => previous

/-- The operator, if `previous` is one, that the lexeme may not follow as an operator. -/
def clashing (previous : Option Token) (lexeme : String) : Option Token :=
  (previous.filter fun token => token.kind == .operator).filter fun token =>
    clashes token.lexeme lexeme

/-- The errors of a lexeme behind `previous`: at most one. -/
def errors (options : LexingOptions) (previous : Option Token) (located : Located) :
    List LexicalError :=
  match located.finding with
  | .token .operator =>
    match clashing previous located.lexeme with
    | some token =>
      [LexicalError.ofCause (.operatorSequence token.lexeme) located.lexeme located.span]
    | none => []
  | .token _ => []
  | .openComment =>
    if options.reportOpenComments then
      [LexicalError.ofCause .openComment located.lexeme located.span]
    else
      []
  | .error cause => [LexicalError.ofCause cause located.lexeme located.span]

/-- The token of a lexeme takes its kind from the finding and the rest from the lexeme. -/
theorem token?_eq (located : Located) : located.token? =
    located.finding.kind?.map fun kind =>
      { kind, lexeme := located.lexeme, span := located.span } := by
  unfold token?
  cases located.finding <;> rfl

theorem of_token? {located : Located} {token : Token} (found : located.token? = some token) :
    token.lexeme = located.lexeme ∧ token.span = located.span := by
  rw [token?_eq, Option.map_eq_some_iff] at found
  obtain ⟨kind, _, rfl⟩ := found
  exact ⟨rfl, rfl⟩

theorem kind?_of_token? {located : Located} {token : Token} (found : located.token? = some token) :
    located.finding.kind? = some token.kind := by
  rw [token?_eq, Option.map_eq_some_iff] at found
  obtain ⟨kind, isKind, rfl⟩ := found
  exact isKind

/-- Only what is spoiled has no token. -/
theorem exists_cause_of_token?_eq_none {located : Located} (noToken : located.token? = none) :
    ∃ cause, located.finding = .error cause := by
  rw [token?_eq, Option.map_eq_none_iff] at noToken
  cases finding : located.finding with
  | token kind => simp [finding, Finding.kind?] at noToken
  | openComment => simp [finding, Finding.kind?] at noToken
  | error cause => exact ⟨cause, rfl⟩

/-- A lexeme has at most one error, and the error lies on it. Where it has a token as well, it is a
misplaced operator or an open comment. -/
theorem errors_cases (options : LexingOptions) (previous : Option Token) (located : Located) :
    located.errors options previous = [] ∨
      ∃ cause, located.errors options previous =
          [LexicalError.ofCause cause located.lexeme located.span] ∧
        ((∃ before, cause = .operatorSequence before ∧ located.finding = .token .operator) ∨
          (cause = .openComment ∧ located.finding = .openComment) ∨
          located.finding = .error cause) := by
  unfold errors
  split
  case h_1 operator =>
    cases clashing previous located.lexeme with
    | none => exact .inl rfl
    | some before => exact .inr ⟨_, rfl, .inl ⟨_, rfl, operator⟩⟩
  case h_2 => exact .inl rfl
  case h_3 comment =>
    cases options.reportOpenComments with
    | false => exact .inl rfl
    | true => exact .inr ⟨_, rfl, .inr (.inl ⟨rfl, comment⟩)⟩
  case h_4 spoiled => exact .inr ⟨_, rfl, .inr (.inr spoiled)⟩

theorem span_of_mem_errors {options : LexingOptions} {previous : Option Token} {located : Located}
    {error : LexicalError} (member : error ∈ located.errors options previous) :
    error.lexeme = located.lexeme ∧ error.span = located.span := by
  rcases errors_cases options previous located with silent | ⟨cause, one, _⟩
  · rw [silent] at member
    cases member
  · rw [one] at member
    obtain rfl := List.mem_singleton.mp member
    exact ⟨rfl, rfl⟩

theorem reverse_errors (options : LexingOptions) (previous : Option Token) (located : Located) :
    (located.errors options previous).reverse = located.errors options previous := by
  rcases errors_cases options previous located with silent | ⟨cause, one, _⟩
  · rw [silent, List.reverse_nil]
  · rw [one, List.reverse_singleton]

end Located

/-- The lexemes of the pieces in their places, from a place on. -/
def locate (place : Place) : List Piece → List Located
  | [] => []
  | piece :: others =>
    let start := place.past piece.gap
    let stop := start.past piece.lexeme
    { finding := piece.finding, lexeme := String.ofList piece.lexeme
      span := Span.between start stop } :: locate stop others

def tokensOf (located : List Located) : List Token := located.filterMap Located.token?

/-- The latest token that is not trivia behind all of them. -/
def latestOf (previous : Option Token) (located : List Located) : Option Token :=
  located.foldl Located.latest previous

def errorsOf (options : LexingOptions) (previous : Option Token) : List Located → List LexicalError
  | [] => []
  | first :: others =>
    first.errors options previous ++ errorsOf options (first.latest previous) others

/-- The lexing of a text with these pieces. -/
def Lexing.ofPieces (options : LexingOptions) (pieces : List Piece) : Lexing :=
  { tokens := tokensOf (locate {} pieces), errors := errorsOf options none (locate {} pieces) }

theorem tokensOf_cons (first : Located) (others : List Located) :
    tokensOf (first :: others) = first.token?.toList ++ tokensOf others := by
  unfold tokensOf
  cases token : first.token? with
  | none => rw [List.filterMap_cons_none token]; rfl
  | some found => rw [List.filterMap_cons_some token]; rfl

theorem exists_of_mem_tokensOf {located : List Located} {token : Token}
    (member : token ∈ tokensOf located) : ∃ one ∈ located, one.token? = some token :=
  List.mem_filterMap.mp member

theorem exists_of_mem_errorsOf {options : LexingOptions} {previous : Option Token}
    {located : List Located} {error : LexicalError}
    (member : error ∈ errorsOf options previous located) :
    ∃ one ∈ located, ∃ previous, error ∈ one.errors options previous := by
  induction located generalizing previous with
  | nil => cases member
  | cons first others ih =>
    rcases List.mem_append.mp member with here | later
    · exact ⟨first, by simp, previous, here⟩
    · obtain ⟨one, among, found⟩ := ih later
      exact ⟨one, List.mem_cons_of_mem _ among, found⟩

/-- What holds of every lexeme on its span holds of every record on the span that it has. -/
theorem Lexing.forall_records_ofPieces (options : LexingOptions) {pieces : List Piece}
    {holds : String → Span → Prop} (each : ∀ one ∈ locate {} pieces, holds one.lexeme one.span) :
    (∀ token ∈ (ofPieces options pieces).tokens, holds token.lexeme token.span) ∧
      ∀ error ∈ (ofPieces options pieces).errors, holds error.lexeme error.span := by
  constructor
  · intro token among
    obtain ⟨one, member, found⟩ := exists_of_mem_tokensOf among
    obtain ⟨lexeme, span⟩ := Located.of_token? found
    rw [lexeme, span]
    exact each one member
  · intro error among
    obtain ⟨one, member, _, found⟩ := exists_of_mem_errorsOf among
    obtain ⟨lexeme, span⟩ := Located.span_of_mem_errors found
    rw [lexeme, span]
    exact each one member

/-- What is spoiled is in the errors, whatever the latest token is. -/
theorem mem_errorsOf_of_error {options : LexingOptions} {previous : Option Token}
    {located : List Located} {one : Located} (member : one ∈ located) {cause : Cause}
    (spoiled : one.finding = .error cause) :
    LexicalError.ofCause cause one.lexeme one.span ∈ errorsOf options previous located := by
  induction located generalizing previous with
  | nil => cases member
  | cons first others ih =>
    rw [errorsOf, List.mem_append]
    rcases List.mem_cons.mp member with rfl | later
    · simp [Located.errors, spoiled]
    · exact .inr (ih later)

theorem tokensOf_append (before after : List Located) :
    tokensOf (before ++ after) = tokensOf before ++ tokensOf after :=
  List.filterMap_append

theorem errorsOf_append (options : LexingOptions) (previous : Option Token)
    (before after : List Located) :
    errorsOf options previous (before ++ after) =
      errorsOf options previous before ++ errorsOf options (latestOf previous before) after := by
  induction before generalizing previous with
  | nil => rfl
  | cons first others ih =>
    rw [List.cons_append, errorsOf, errorsOf, ih, List.append_assoc]
    rfl

theorem locate_append (place : Place) (before after : List Piece) :
    locate place (before ++ after) =
      locate place before ++ locate (place.past (textOf before [])) after := by
  induction before generalizing place with
  | nil => simp [locate]
  | cons piece others ih =>
    rw [List.cons_append, locate, locate, ih, textOf_cons]
    simp

/-- What is located is a piece between others, and its place follows from the text before it. -/
theorem exists_of_mem_locate {place : Place} {pieces : List Piece} {located : Located}
    (member : located ∈ locate place pieces) :
    ∃ before piece after, pieces = before ++ piece :: after ∧
      located = {
        finding := piece.finding
        lexeme := String.ofList piece.lexeme
        span := Span.between (place.past (textOf before piece.gap))
          (place.past (textOf before (piece.gap ++ piece.lexeme))) } := by
  induction pieces generalizing place with
  | nil => cases member
  | cons piece others ih =>
    rcases List.mem_cons.mp member with rfl | later
    · exact ⟨[], piece, others, rfl, by simp⟩
    · obtain ⟨before, found, after, rfl, rfl⟩ := ih later
      exact ⟨piece :: before, found, after, rfl, by simp [textOf_cons]⟩

/-- What is located has the form of its finding. -/
theorem Divides.form_of_mem_locate {pieces : List Piece} {tail : List Char}
    (divides : Divides pieces tail) {place : Place} :
    ∀ located ∈ locate place pieces, located.finding.Form located.lexeme.toList := by
  intro located member
  obtain ⟨before, piece, after, rfl, rfl⟩ := exists_of_mem_locate member
  rw [String.toList_ofList]
  exact divides.form piece (by simp)

/-! ## Recording into a state -/

namespace LexingState

/-- The latest recorded token that is not trivia. -/
def latest (state : LexingState) : Option Token :=
  state.tokens.find? fun token => !token.kind.isTrivia

variable (options : LexingOptions) (finding : Finding) (lexeme : String) (span : Span)
  (state : LexingState)

theorem record_cursor : (state.record options finding lexeme span).cursor = state.cursor := by
  unfold record
  split
  · split <;> rfl
  · rfl
  · split <;> rfl
  · rfl

theorem record_tokens : (state.record options finding lexeme span).tokens =
    (Located.token? { finding, lexeme, span }).toList ++ state.tokens := by
  unfold record
  split
  · split <;> rfl
  · rfl
  · split <;> rfl
  · rfl

theorem record_errors : (state.record options finding lexeme span).errors =
    Located.errors options state.latest { finding, lexeme, span } ++ state.errors := by
  cases finding with
  | token kind =>
    by_cases operator : kind = .operator
    · subst operator
      have same : (state.previousOperator.filter fun token => clashes token.lexeme lexeme) =
          Located.clashing state.latest lexeme := rfl
      unfold record Located.errors
      dsimp only
      rw [same]
      cases Located.clashing state.latest lexeme <;> rfl
    · cases kind with
      | operator => exact absurd rfl operator
      | _ => rfl
  | openComment =>
    unfold record Located.errors
    dsimp only
    cases options.reportOpenComments <;> rfl
  | error cause => rfl

theorem record_latest : (state.record options finding lexeme span).latest =
    Located.latest state.latest { finding, lexeme, span } := by
  unfold latest Located.latest
  rw [record_tokens]
  cases Located.token? { finding, lexeme, span } with
  | none => rfl
  | some token =>
    rw [Option.toList_some, List.singleton_append, List.find?_cons]
    cases trivia : token.kind.isTrivia <;> simp [trivia]

end LexingState

end ScriptLexer
