import ScriptLexer.Proofs.Run

/-!
# Open comments

Reporting open comments adds one error at most and changes nothing else. A comment that is never
closed goes on up to the end of the text, so it is the last lexeme, and its error the last error.
-/
namespace ScriptLexer

open Grammar

/-- A comment whose body never closes it: read from left to right, the depth never drops below
zero. -/
def Grammar.IsNeverClosed (text : List Char) : Prop :=
  ∃ body, text = opening ++ body ∧ StaysUp 0 (depthSteps body)

namespace Lexing

/-- The last token is a block comment that is never closed. -/
def EndsUnclosed (lexing : Lexing) : Prop :=
  ∃ token ∈ lexing.tokens.getLast?, token.kind = .blockComment ∧ IsNeverClosed token.lexeme.toList

/-- What a lexing becomes where open comments are reported: `extra` is added if the text ends in
one. -/
structure Reported (lexing reporting : Lexing) (extra : Option LexicalError)
    (source : String) : Prop where
  tokens : reporting.tokens = lexing.tokens
  errors : reporting.errors = lexing.errors ++ extra.toList
  extra_iff : extra.isSome = true ↔ lexing.EndsUnclosed
  onLast : ∀ error ∈ extra, ∃ token ∈ lexing.tokens.getLast?, error.code = .unterminatedComment ∧
    error.lexeme = token.lexeme ∧ error.span = token.span ∧ token.span.stop = source.utf8ByteSize
  unreported : ∀ error ∈ lexing.errors, error.code ≠ .unterminatedComment

/-- The errors about open comments. -/
def openComments (lexing : Lexing) : List LexicalError :=
  lexing.errors.filter fun error => decide (error.code = .unterminatedComment)

theorem Reported.openComments_eq {lexing reporting : Lexing} {extra : Option LexicalError}
    {source : String} (reported : lexing.Reported reporting extra source) :
    lexing.openComments = [] ∧ reporting.openComments = extra.toList := by
  have unreported : lexing.openComments = [] :=
    List.filter_eq_nil_iff.mpr fun error among => by simpa using reported.unreported error among
  refine ⟨unreported, ?_⟩
  have own : ∀ error ∈ extra.toList, decide (error.code = .unterminatedComment) = true := by
    intro error member
    obtain ⟨_, _, code, _⟩ := reported.onLast error (Option.mem_toList.mp member)
    exact decide_eq_true code
  unfold openComments at unreported ⊢
  rw [reported.errors, List.filter_append, unreported, List.filter_eq_self.mpr own, List.nil_append]

end Lexing

/-- What closes a comment drops below zero at its end. -/
theorem not_isNeverClosed {text : List Char} (closed : IsClosedComment text) :
    ¬ IsNeverClosed text := by
  rintro ⟨body, same, stays⟩
  obtain ⟨closing, rfl, _, drops, _⟩ := closed
  obtain rfl := List.append_cancel_left same
  have up := stays _ (List.prefix_refl _)
  omega

/-- Nothing stands behind an open comment. -/
theorem Divides.eq_nil_of_openComment {before after : List Piece} {piece : Piece} {tail : List Char}
    (divides : Divides (before ++ piece :: after) tail) (unclosed : piece.finding = .openComment) :
    after = [] ∧ tail = [] := by
  obtain ⟨_, stands, rest⟩ := divides.of_append
  have behind : textOf after tail = [] := by
    cases text : textOf after tail with
    | nil => rfl
    | cons c more =>
      have admits := stands.ends
      rw [text, unclosed] at admits
      exact absurd (admits c rfl) id
  obtain rfl : after = [] := rest.eq_nil_of_textOf behind
  exact ⟨rfl, behind⟩

/-! ## The errors under either option -/

namespace Located

variable {located : Located}

/-- Only for an open comment the options matter. -/
theorem errors_options (closed : located.finding ≠ .openComment) (options others : LexingOptions)
    (previous : Option Token) :
    located.errors options previous = located.errors others previous := by
  unfold errors
  split
  · rfl
  · rfl
  · contradiction
  · rfl

/-- The code of an open comment is given to open comments only. -/
theorem code_of_mem_errors (form : located.finding.Form located.lexeme.toList)
    (closed : located.finding ≠ .openComment) {options : LexingOptions} {previous : Option Token}
    {error : LexicalError} (member : error ∈ located.errors options previous) :
    error.code ≠ .unterminatedComment := by
  rcases errors_cases options previous located with silent | ⟨cause, one, which⟩
  · rw [silent] at member
    cases member
  · rw [one] at member
    obtain rfl := List.mem_singleton.mp member
    rcases which with ⟨before, rfl, _⟩ | ⟨_, comment⟩ | spoiled
    · intro same
      cases same
    · exact absurd comment closed
    · rw [spoiled] at form
      cases cause with
      | openComment => exact absurd form id
      | _ =>
        intro same
        cases same

end Located

theorem errorsOf_options {located : List Located}
    (closed : ∀ one ∈ located, one.finding ≠ .openComment) (options others : LexingOptions)
    (previous : Option Token) :
    errorsOf options previous located = errorsOf others previous located := by
  induction located generalizing previous with
  | nil => rfl
  | cons first rest ih =>
    rw [errorsOf, errorsOf, Located.errors_options (closed first (by simp)) options others,
      ih fun one member => closed one (List.mem_cons_of_mem _ member)]

theorem code_of_mem_errorsOf {located : List Located}
    (forms : ∀ one ∈ located, one.finding.Form one.lexeme.toList)
    (closed : ∀ one ∈ located, one.finding ≠ .openComment) {options : LexingOptions}
    {previous : Option Token} :
    ∀ error ∈ errorsOf options previous located, error.code ≠ .unterminatedComment := by
  intro error among
  obtain ⟨one, member, _, found⟩ := exists_of_mem_errorsOf among
  exact Located.code_of_mem_errors (forms one member) (closed one member) found

section Last

variable {earlier : List Located} {last : Located} (unclosed : last.finding = .openComment)

include unclosed

theorem tokensOf_openComment : tokensOf (earlier ++ [last]) =
    tokensOf earlier ++ [{ kind := .blockComment, lexeme := last.lexeme, span := last.span }] := by
  rw [tokensOf_append, tokensOf_cons, Located.token?, unclosed]
  rfl

theorem errorsOf_openComment (options : LexingOptions) (previous : Option Token) :
    errorsOf options previous (earlier ++ [last]) = errorsOf options previous earlier ++
      if options.reportOpenComments = true then
        [LexicalError.ofCause .openComment last.lexeme last.span]
      else
        [] := by
  rw [errorsOf_append, errorsOf, errorsOf, List.append_nil, Located.errors, unclosed]

end Last

/-! ## Both runs -/

theorem Finding.eq_of_kind? {finding : Finding} (isComment : finding.kind? = some .blockComment) :
    finding = .token .blockComment ∨ finding = .openComment := by
  cases finding with
  | token kind =>
    obtain rfl := Option.some.inj isComment
    exact .inl rfl
  | openComment => exact .inr rfl
  | error cause => cases isComment

section Runs

variable {pieces : List Piece} {piece : Piece} {tail : List Char} (source : String)

theorem reported_of_closed (divides : Divides pieces tail)
    (closed : ∀ located ∈ locate {} pieces, located.finding ≠ .openComment) :
    (Lexing.ofPieces { reportOpenComments := false } pieces).Reported
      (Lexing.ofPieces { reportOpenComments := true } pieces) none source := by
  have forms := @Divides.form_of_mem_locate pieces tail divides {}
  constructor
  case tokens => rfl
  case errors =>
    rw [Option.toList_none, List.append_nil]
    exact errorsOf_options closed _ _ none
  case extra_iff =>
    refine iff_of_false (by simp) ?_
    rintro ⟨token, last, isComment, never⟩
    obtain ⟨located, member, found⟩ := exists_of_mem_tokensOf (List.mem_of_getLast? last)
    have form := forms located member
    have isKind := Located.kind?_of_token? found
    rw [isComment] at isKind
    rw [(Located.of_token? found).1] at never
    rcases Finding.eq_of_kind? isKind with ended | unended
    · rw [ended] at form
      exact not_isNeverClosed form never
    · exact closed located member unended
  case onLast => simp
  case unreported => exact code_of_mem_errorsOf forms closed

/-- The comment that is open at the end of the text is the last token, and its error the extra
one. -/
theorem reported_of_openComment {before : List Piece} (divides : Divides (before ++ [piece]) [])
    (unclosed : piece.finding = .openComment)
    (same : source.toList = textOf (before ++ [piece]) []) :
    ∃ error, (Lexing.ofPieces { reportOpenComments := false } (before ++ [piece])).Reported
      (Lexing.ofPieces { reportOpenComments := true } (before ++ [piece])) (some error) source := by
  obtain ⟨last, isLast, isOpen, stop⟩ : ∃ last : Located,
      locate {} (before ++ [piece]) = locate {} before ++ [last] ∧ last.finding = .openComment ∧
        last.span.stop = source.utf8ByteSize := by
    refine ⟨_, locate_append _ _ _, unclosed, ?_⟩
    rw [← Text.byteLength_toList, same]
    simp [Span.between, textOf, Piece.text, Nat.add_assoc]
  have forms := @Divides.form_of_mem_locate _ _ divides {}
  have closed : ∀ one ∈ locate {} before, one.finding ≠ .openComment := by
    intro one member also
    obtain ⟨front, other, back, rfl, rfl⟩ := exists_of_mem_locate member
    rw [List.append_assoc, List.cons_append] at divides
    obtain ⟨noPieces, _⟩ := divides.eq_nil_of_openComment also
    simp at noPieces
  unfold Lexing.ofPieces
  rw [isLast] at forms ⊢
  rw [tokensOf_openComment isOpen, errorsOf_openComment isOpen, errorsOf_openComment isOpen,
    if_neg (by simp), if_pos rfl, List.append_nil]
  refine ⟨LexicalError.ofCause .openComment last.lexeme last.span, ?_⟩
  let comment : Token := ⟨.blockComment, last.lexeme, last.span⟩
  have atEnd : (tokensOf (locate {} before) ++ [comment]).getLast? = some comment :=
    List.getLast?_concat
  constructor
  case tokens => rfl
  case errors => exact congrArg (· ++ _) (errorsOf_options closed _ _ none)
  case extra_iff =>
    refine iff_of_true rfl ⟨_, atEnd, rfl, ?_⟩
    have form := forms last (by simp)
    rw [isOpen] at form
    obtain ⟨body, opened, _, stays⟩ := form
    exact ⟨body, opened, stays⟩
  case onLast =>
    intro error isError
    obtain rfl := Option.some.inj isError
    exact ⟨_, atEnd, rfl, rfl, rfl, stop⟩
  case unreported =>
    exact code_of_mem_errorsOf (fun one member => forms one (List.mem_append_left _ member)) closed

end Runs

/-- Reporting open comments leaves the tokens and the other errors as they are. One error is added
exactly where the last token is a comment that is never closed: an error on that token, which goes
on up to the end of the text. Without the option no open comment is reported. -/
theorem lexText_reported {source : String} (short : source.length + 1 < counterLimit) :
    ∃ lexing reporting extra, lexText { reportOpenComments := false } source = .ok lexing ∧
      lexText { reportOpenComments := true } source = .ok reporting ∧
      lexing.Reported reporting extra source ∧
      lexing.openComments = [] ∧ reporting.openComments = extra.toList := by
  obtain ⟨pieces, tail, same, divides⟩ := exists_division source.toList
  have lexed := fun options => (lexText_yields options divides same.symm).eq_ok short
  have reported : ∃ extra, (Lexing.ofPieces { reportOpenComments := false } pieces).Reported
      (Lexing.ofPieces { reportOpenComments := true } pieces) extra source := by
    by_cases closed : ∀ located ∈ locate {} pieces, located.finding ≠ .openComment
    · exact ⟨none, reported_of_closed source divides closed⟩
    · simp only [not_forall, not_not] at closed
      obtain ⟨located, member, unclosed⟩ := closed
      obtain ⟨before, piece, after, rfl, rfl⟩ := exists_of_mem_locate member
      obtain ⟨rfl, rfl⟩ := divides.eq_nil_of_openComment unclosed
      obtain ⟨error, reported⟩ := reported_of_openComment source divides unclosed same.symm
      exact ⟨some error, reported⟩
  obtain ⟨extra, reported⟩ := reported
  exact ⟨_, _, extra, lexed _, lexed _, reported, reported.openComments_eq⟩

/-- A comment that opens twice and closes once is reported on the option, behind the error before
it. -/
theorem lexText_reported_nested :
    ∃ lexing reporting, lexText { reportOpenComments := false } "@<<<<<<>>>\n" = .ok lexing ∧
      lexText { reportOpenComments := true } "@<<<<<<>>>\n" = .ok reporting ∧
      reporting.errors = lexing.errors ++
        [LexicalError.ofCause .openComment "<<<<<<>>>\n" ⟨1, 11, 1, 2⟩] ∧
      lexing.EndsUnclosed := by
  obtain ⟨lexing, reporting, extra, lexed, alsoLexed, reported, _, one⟩ :=
    @lexText_reported "@<<<<<<>>>\n" (by decide)
  have found : (lexText { reportOpenComments := true } "@<<<<<<>>>\n").map Lexing.openComments =
      .ok [LexicalError.ofCause .openComment "<<<<<<>>>\n" ⟨1, 11, 1, 2⟩] := by
    decide +kernel
  rw [alsoLexed] at found
  have isExtra := one.symm.trans (Except.ok.inj found)
  refine ⟨lexing, reporting, lexed, alsoLexed, isExtra ▸ reported.errors, reported.extra_iff.mp ?_⟩
  cases extra with
  | none => cases isExtra
  | some error => rfl

end ScriptLexer
