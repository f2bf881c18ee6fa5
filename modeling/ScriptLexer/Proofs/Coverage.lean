import ScriptLexer.Proofs.Run
import ScriptLexer.Proofs.Spans

/-!
# Coverage

A lexing accounts for its text: each character is a blank between lexemes or belongs to exactly one
lexeme, and each lexeme to exactly one token or one error, or to one of each where a sound lexeme is
misplaced or lacks its end.
-/
namespace ScriptLexer

namespace Lexing

def tokensAt (lexing : Lexing) (span : Span) : List Token :=
  lexing.tokens.filter fun token => decide (token.span = span)

def errorsAt (lexing : Lexing) (span : Span) : List LexicalError :=
  lexing.errors.filter fun error => decide (error.span = span)

/-- The records that share a span: a token, an error, or one of each. -/
inductive Records (lexing : Lexing) (span : Span) : Prop where
  | token {token : Token} (one : lexing.tokensAt span = [token])
    (noError : lexing.errorsAt span = [])
  | error {error : LexicalError} (noToken : lexing.tokensAt span = [])
      (one : lexing.errorsAt span = [error]) (noSequence : error.code ≠ .operatorSequence)
      (noComment : error.code ≠ .unterminatedComment)
  | misplaced {token : Token} {error : LexicalError} (first : lexing.tokensAt span = [token])
      (second : lexing.errorsAt span = [error]) (operator : token.kind = .operator)
      (sequence : error.code = .operatorSequence)
  | unended {token : Token} {error : LexicalError} (first : lexing.tokensAt span = [token])
      (second : lexing.errorsAt span = [error]) (comment : token.kind = .blockComment)
      (noEnd : error.code = .unterminatedComment)

/-- The lexing accounts for every character of the text. -/
structure Covers (lexing : Lexing) (text : List Char) : Prop where
  nonempty : ∀ span ∈ lexing.spans, span.start < span.stop
  disjoint : lexing.spans.Pairwise Span.Precedes
  inside : ∀ span ∈ lexing.spans, Text.isBoundary span.start text = true ∧
    Text.isBoundary span.stop text = true ∧ span.stop ≤ Text.byteLength text
  tokenLexemes : ∀ token ∈ lexing.tokens,
    Text.slice token.span.start token.span.stop text = some token.lexeme.toList
  errorLexemes : ∀ error ∈ lexing.errors,
    Text.slice error.span.start error.span.stop text = some error.lexeme.toList
  blankGaps : ∀ gap ∈ lexing.gaps text, ∀ c ∈ gap, isBlank c = true
  rebuilds : interleave (lexing.gaps text) (lexing.lexemes text) = text
  tokensAscend : (lexing.tokens.map Token.span).Pairwise Span.Precedes
  errorsAscend : (lexing.errors.map LexicalError.span).Pairwise Span.Precedes
  records : ∀ span ∈ lexing.spans, lexing.Records span
  noLeadingBlank : ∀ lexeme ∈ lexing.lexemes text, Stops isBlank lexeme.head?

end Lexing

/-! ## Records in order -/

section Order

variable {located : List Located} (options : LexingOptions) (previous : Option Token)

theorem tokensOf_ascend
    (ordered : located.Pairwise fun first second => first.span.Precedes second.span) :
    ((tokensOf located).map Token.span).Pairwise Span.Precedes := by
  rw [List.pairwise_map]
  refine ordered.filterMap _ ?_
  intro first second precedes token found later next
  rw [(Located.of_token? found).2, (Located.of_token? next).2]
  exact precedes

theorem errorsOf_ascend
    (ordered : located.Pairwise fun first second => first.span.Precedes second.span) :
    ((errorsOf options previous located).map LexicalError.span).Pairwise Span.Precedes := by
  rw [List.pairwise_map]
  induction located generalizing previous with
  | nil => exact List.Pairwise.nil
  | cons first others ih =>
    obtain ⟨precedes, rest⟩ := List.pairwise_cons.mp ordered
    refine List.pairwise_append.mpr ⟨?_, ih _ rest, ?_⟩
    · rcases Located.errors_cases options previous first with silent | ⟨cause, one, _⟩
      · rw [silent]
        exact List.Pairwise.nil
      · rw [one]
        exact List.pairwise_singleton _ _
    · intro error here later among
      obtain ⟨one, member, latest, found⟩ := exists_of_mem_errorsOf among
      rw [(Located.span_of_mem_errors here).2, (Located.span_of_mem_errors found).2]
      exact precedes one member

/-- Lexemes one behind the other lie on different spans. -/
theorem span_ne_of_ordered {before after : List Located} {one : Located}
    (ordered : (before ++ one :: after).Pairwise
      fun first second => first.span.Precedes second.span) :
    (∀ other ∈ before, other.span ≠ one.span) ∧ ∀ other ∈ after, other.span ≠ one.span := by
  obtain ⟨_, behind, across⟩ := List.pairwise_append.mp ordered
  constructor
  · intro other member same
    have precedes := (across other member one (by simp)).1
    rw [same] at precedes
    omega
  · intro other member same
    have precedes := ((List.pairwise_cons.mp behind).1 other member).1
    rw [same] at precedes
    omega

/-- Where only the middle part is on the span, it is what is found there. -/
theorem filter_span_append {α : Type} (spanOf : α → Span) {span : Span} {front own back : List α}
    (before : ∀ record ∈ front, spanOf record ≠ span) (here : ∀ record ∈ own, spanOf record = span)
    (after : ∀ record ∈ back, spanOf record ≠ span) :
    (front ++ (own ++ back)).filter (fun record => decide (spanOf record = span)) = own := by
  have noFront : front.filter (fun record => decide (spanOf record = span)) = [] :=
    List.filter_eq_nil_iff.mpr fun record member => by simpa using before record member
  have noBack : back.filter (fun record => decide (spanOf record = span)) = [] :=
    List.filter_eq_nil_iff.mpr fun record member => by simpa using after record member
  have allOwn : own.filter (fun record => decide (spanOf record = span)) = own :=
    List.filter_eq_self.mpr fun record member => decide_eq_true (here record member)
  rw [List.filter_append, List.filter_append, noFront, noBack, allOwn, List.nil_append,
    List.append_nil]

theorem span_ne_of_mem_tokensOf {span : Span} (apart : ∀ other ∈ located, other.span ≠ span) :
    ∀ token ∈ tokensOf located, token.span ≠ span := by
  intro token among
  obtain ⟨other, member, found⟩ := exists_of_mem_tokensOf among
  rw [(Located.of_token? found).2]
  exact apart other member

theorem span_ne_of_mem_errorsOf {span : Span} (apart : ∀ other ∈ located, other.span ≠ span) :
    ∀ error ∈ errorsOf options previous located, error.span ≠ span := by
  intro error among
  obtain ⟨other, member, _, found⟩ := exists_of_mem_errorsOf among
  rw [(Located.span_of_mem_errors found).2]
  exact apart other member

/-- The tokens on the span of a lexeme are its own. -/
theorem tokensOf_filter {one : Located} (member : one ∈ located)
    (ordered : located.Pairwise fun first second => first.span.Precedes second.span) :
    (tokensOf located).filter (fun token => decide (token.span = one.span)) =
      one.token?.toList := by
  obtain ⟨before, after, rfl⟩ := List.append_of_mem member
  obtain ⟨front, back⟩ := span_ne_of_ordered ordered
  rw [tokensOf_append, tokensOf_cons]
  apply filter_span_append Token.span
  · exact span_ne_of_mem_tokensOf front
  · exact fun token found => (Located.of_token? (Option.mem_toList.mp found)).2
  · exact span_ne_of_mem_tokensOf back

/-- The errors on the span of a lexeme are its own. -/
theorem errorsOf_filter {one : Located} (member : one ∈ located)
    (ordered : located.Pairwise fun first second => first.span.Precedes second.span) :
    ∃ latest, (errorsOf options previous located).filter
        (fun error => decide (error.span = one.span)) = one.errors options latest := by
  obtain ⟨before, after, rfl⟩ := List.append_of_mem member
  obtain ⟨front, back⟩ := span_ne_of_ordered ordered
  refine ⟨latestOf previous before, ?_⟩
  rw [errorsOf_append, errorsOf]
  apply filter_span_append LexicalError.span
  · exact span_ne_of_mem_errorsOf options previous front
  · exact fun error found => (Located.span_of_mem_errors found).2
  · exact span_ne_of_mem_errorsOf options _ back

end Order

/-! ## What a division accounts for -/

variable (options : LexingOptions) {pieces : List Piece} {tail : List Char}

theorem records_ofPieces (divides : Divides pieces tail) {located : Located}
    (member : located ∈ locate {} pieces) :
    (Lexing.ofPieces options pieces).Records located.span := by
  have ordered := @locate_pairwise {} pieces tail divides
  have tokens : (Lexing.ofPieces options pieces).tokensAt located.span = located.token?.toList :=
    tokensOf_filter member ordered
  obtain ⟨latest, errors⟩ : ∃ latest,
      (Lexing.ofPieces options pieces).errorsAt located.span = located.errors options latest :=
    errorsOf_filter options none member ordered
  obtain ⟨_, _, _, _, _, stands⟩ := exists_around divides member
  rcases Located.errors_cases options latest located with sound | ⟨cause, one, which⟩
  · cases found : located.token? with
    | none =>
      obtain ⟨cause, spoiled⟩ := Located.exists_cause_of_token?_eq_none found
      simp [Located.errors, spoiled] at sound
    | some token =>
      rw [found] at tokens
      exact .token tokens (errors.trans sound)
  · rcases which with ⟨before, rfl, operator⟩ | ⟨rfl, comment⟩ | spoiled
    · rw [Located.token?, operator] at tokens
      exact .misplaced tokens (errors.trans one) rfl rfl
    · rw [Located.token?, comment] at tokens
      exact .unended tokens (errors.trans one) rfl rfl
    · have form := stands.form
      rw [Located.token?, spoiled] at tokens
      rw [spoiled] at form
      refine .error tokens (errors.trans one) ?_ ?_
      · intro same
        cases cause with
        | operatorSequence before => exact form
        | _ => cases same
      · intro same
        cases cause with
        | openComment => exact form
        | _ => cases same

theorem covers_ofPieces (divides : Divides pieces tail) :
    (Lexing.ofPieces options pieces).Covers (textOf pieces tail) := by
  have spans := Lexing.spans_ofPieces options divides
  have lexemes := Lexing.lexemes_ofPieces options divides
  have gaps := Lexing.gaps_ofPieces options divides
  have ordered := @locate_pairwise {} pieces tail divides
  have cuts := @Lexing.forall_records_ofPieces options pieces
    (fun lexeme span => Text.slice span.start span.stop (textOf pieces tail) = some lexeme.toList)
    fun _ => slice_of_mem_locate divides
  constructor
  case nonempty =>
    rw [spans]
    intro span among
    obtain ⟨located, member, rfl⟩ := List.mem_map.mp among
    obtain ⟨front, back, same, start, stop, stands⟩ := exists_around divides member
    have positive := Text.byteLength_pos stands.form.begins.ne_nil
    omega
  case disjoint =>
    rw [spans]
    exact List.pairwise_map.mpr ordered
  case inside =>
    rw [spans]
    intro span among
    obtain ⟨located, member, rfl⟩ := List.mem_map.mp among
    obtain ⟨front, back, same, start, stop, stands⟩ := exists_around divides member
    rw [same, start, stop]
    refine ⟨Text.isBoundary_append front _, ?_, ?_⟩
    · have boundary := Text.isBoundary_append (front ++ located.lexeme.toList) back
      rwa [List.append_assoc, Text.byteLength_append] at boundary
    · rw [Text.byteLength_append, Text.byteLength_append]
      omega
  case tokenLexemes => exact cuts.1
  case errorLexemes => exact cuts.2
  case blankGaps =>
    rw [gaps]
    exact divides.blank
  case rebuilds =>
    rw [gaps, lexemes]
    exact interleave_pieces pieces tail
  case tokensAscend => exact tokensOf_ascend ordered
  case errorsAscend => exact errorsOf_ascend options none ordered
  case records =>
    rw [spans]
    intro span among
    obtain ⟨located, member, rfl⟩ := List.mem_map.mp among
    exact records_ofPieces options divides member
  case noLeadingBlank =>
    rw [lexemes]
    intro lexeme among
    obtain ⟨piece, member, rfl⟩ := List.mem_map.mp among
    exact isBlank_false_of_begins (divides.form piece member).begins

/-- Every text is lexed, unless a counter overflows, and its lexing accounts for every character. -/
theorem lexText_covers (options : LexingOptions) (source : String) :
    (∃ lexing, lexText options source = .ok lexing ∧ lexing.Covers source.toList) ∨
      (lexText options source = .error .counterOverflow ∧ counterLimit ≤ source.length + 1) := by
  obtain ⟨pieces, tail, same, divides⟩ := exists_division source.toList
  rcases lexText_yields options divides same.symm with done | failed
  · refine .inl ⟨_, done, ?_⟩
    rw [← same]
    exact covers_ofPieces options divides
  · exact .inr failed

end ScriptLexer
