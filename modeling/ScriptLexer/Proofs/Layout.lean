import Mathlib.Data.List.Forall2
import ScriptLexer.Proofs.Grammar.Separator
import ScriptLexer.Proofs.Run
import ScriptLexer.Proofs.Spans

/-!
# Layout

How many blanks stand between two lexemes makes no difference, as long as there are some where there
were some before. Blanks may also go where there were none, except behind lexemes that would take
them along.
-/
namespace ScriptLexer

/-- What a token is, wherever it stands. -/
def Token.content (token : Token) : Token.Kind × Token.Category × String :=
  (token.kind, token.category, token.lexeme)

/-- What an error says, wherever it stands. -/
def LexicalError.content (error : LexicalError) : ErrorCode × String × String :=
  (error.code, error.message, error.lexeme)

namespace Lexing

/-- The lexeme on the span is a comment up to the end of its line, a comment that is never closed or
a string that lacks its closing quote: blanks behind it would belong to it. -/
def TakesBlanks (lexing : Lexing) (span : Span) : Prop :=
  (∃ token ∈ lexing.tokens, token.span = span ∧ (token.kind = .lineComment ∨
      token.kind = .blockComment ∧ Grammar.IsOpenComment token.lexeme.toList)) ∨
    ∃ error ∈ lexing.errors, error.span = span ∧ error.code = .unterminatedString

/-- The gaps may stand in place of those of the lexing: all are blank, none is empty where there was
one before, and none stands behind a lexeme that takes blanks along. -/
structure Respaces (lexing : Lexing) (text : List Char) (gaps : List (List Char)) : Prop where
  blank : ∀ gap ∈ gaps, ∀ c ∈ gap, isBlank c = true
  kept : List.Forall₂ (fun old new => old ≠ [] → new ≠ []) (lexing.gaps text) gaps
  untaken : List.Forall₂ (fun span new => lexing.TakesBlanks span → new = []) lexing.spans gaps.tail

end Lexing

/-! ## A division with other gaps -/

/-- What a text of gaps and lexemes begins with is settled by its first gap and its first lexeme. -/
theorem head?_interleave {gap : List Char} {gaps lexemes : List (List Char)}
    (nonempty : ∀ lexeme ∈ lexemes, lexeme ≠ []) (lengths : gaps.length = lexemes.length) :
    (interleave (gap :: gaps) lexemes).head? = (gap ++ lexemes.headD []).head? := by
  cases lexemes with
  | nil =>
    obtain rfl := List.eq_nil_of_length_eq_zero lengths
    simp [interleave]
  | cons lexeme others =>
    obtain ⟨c, more, rfl⟩ := List.exists_cons_of_ne_nil (nonempty lexeme (by simp))
    simp [interleave, List.head?_append]

/-- A lexeme stays what it is when the gap behind it becomes another one. -/
theorem Stands.respaced {finding : Finding} {lexeme rest other old new next : List Char}
    (stands : Stands finding lexeme rest) (blank : ∀ c ∈ new, isBlank c = true)
    (kept : old ≠ [] → new ≠ []) (untaken : finding.takesBlanks = true → new = [])
    (before : rest.head? = (old ++ next).head?) (after : other.head? = (new ++ next).head?) :
    Stands finding lexeme other := by
  refine ⟨stands.form, ?_⟩
  rw [after]
  cases new with
  | nil =>
    have empty : old = [] := by
      by_contra nonempty
      exact kept nonempty rfl
    rw [empty] at before
    rw [← before]
    exact stands.ends
  | cons c more =>
    have short : finding.takesBlanks = false := by
      by_contra takes
      rw [Bool.not_eq_false] at takes
      cases untaken takes
    rw [List.cons_append, List.head?_cons, Finding.ends_some]
    exact Finding.admits_blank (blank c (by simp)) short

/-- Other gaps around the same lexemes are a division again. -/
theorem Divides.respaced {pieces : List Piece} {tail : List Char} {gaps : List (List Char)}
    (divides : Divides pieces tail) (blank : ∀ gap ∈ gaps, ∀ c ∈ gap, isBlank c = true)
    (kept : List.Forall₂ (fun old new => old ≠ [] → new ≠ []) (pieces.map Piece.gap ++ [tail]) gaps)
    (untaken : List.Forall₂ (fun piece new => piece.finding.takesBlanks = true → new = []) pieces
      gaps.tail) :
    ∃ others last, Divides others last ∧
      textOf others last = interleave gaps (pieces.map Piece.lexeme) ∧
      others.map Piece.unplaced = pieces.map Piece.unplaced := by
  induction pieces generalizing gaps with
  | nil =>
    obtain ⟨new, _, _, noMore, rfl⟩ := List.forall₂_cons_left_iff.mp kept
    obtain rfl := List.forall₂_nil_left_iff.mp noMore
    exact ⟨[], new, blank new (by simp), by simp [interleave], rfl⟩
  | cons piece pieces ih =>
    obtain ⟨_, stands, rest⟩ := divides
    obtain ⟨first, more, _, keptLater, rfl⟩ := List.forall₂_cons_left_iff.mp kept
    obtain ⟨next, later, untakenHere, untakenLater, same⟩ := List.forall₂_cons_left_iff.mp untaken
    obtain rfl : more = next :: later := same
    obtain ⟨others, last, divided, text, unplaced⟩ :=
      ih rest (fun gap member => blank gap (List.mem_cons_of_mem _ member)) keptLater untakenLater
    have nonempty : ∀ lexeme ∈ pieces.map Piece.lexeme, lexeme ≠ [] := by
      intro lexeme member
      obtain ⟨other, among, rfl⟩ := List.mem_map.mp member
      exact (rest.form other among).begins.ne_nil
    have lengths : later.length = (pieces.map Piece.lexeme).length := by
      rw [List.length_map, untakenLater.length_eq]
    obtain ⟨old, olds, gapsBefore, keptHere, oldLengths⟩ : ∃ old olds,
        pieces.map Piece.gap ++ [tail] = old :: olds ∧ (old ≠ [] → next ≠ []) ∧
          olds.length = (pieces.map Piece.lexeme).length := by
      obtain ⟨old, olds, here, others, oldGaps⟩ := List.forall₂_cons_right_iff.mp keptLater
      exact ⟨old, olds, oldGaps, here, others.length_eq.trans lengths⟩
    have before :
        (textOf pieces tail).head? = (old ++ (pieces.map Piece.lexeme).headD []).head? := by
      rw [← interleave_pieces, gapsBefore]
      exact head?_interleave nonempty oldLengths
    have after :
        (textOf others last).head? = (next ++ (pieces.map Piece.lexeme).headD []).head? := by
      rw [text]
      exact head?_interleave nonempty lengths
    refine ⟨{ piece with gap := first } :: others, last, ⟨blank first (by simp), ?_, divided⟩, ?_,
      ?_⟩
    · exact stands.respaced (blank next (by simp)) keptHere untakenHere before after
    · rw [textOf_cons, text, List.map_cons, interleave]
    · rw [List.map_cons, List.map_cons, unplaced]
      rfl

/-! ## The same records elsewhere -/

variable (options : LexingOptions)

/-- Where the lexemes stand makes no difference to what is recorded of them. -/
theorem contents_ofPieces {pieces others : List Piece}
    (same : others.map Piece.unplaced = pieces.map Piece.unplaced) :
    (Lexing.ofPieces options others).tokens.map Token.content =
        (Lexing.ofPieces options pieces).tokens.map Token.content ∧
      (Lexing.ofPieces options others).errors.map LexicalError.content =
        (Lexing.ofPieces options pieces).errors.map LexicalError.content := by
  have tokens : ∀ pieces, (Lexing.ofPieces options pieces).tokens.map Token.content =
      (tokensOf (pieces.map Piece.unplaced)).map Token.content := by
    intro pieces
    rw [← locate_unplaced {}, tokensOf_mapSpan, List.map_map]
    rfl
  have errors : ∀ pieces, (Lexing.ofPieces options pieces).errors.map LexicalError.content =
      (errorsOf options none (pieces.map Piece.unplaced)).map LexicalError.content := by
    intro pieces
    have moved := errorsOf_mapSpan (fun _ => .unknown) options none (locate {} pieces)
    rw [Option.map_none, locate_unplaced] at moved
    rw [moved, List.map_map]
    rfl
  rw [tokens, tokens, errors, errors, same]
  exact ⟨rfl, rfl⟩

/-- A lexeme that takes blanks along shows in the records. -/
theorem takesBlanks_ofPieces {pieces : List Piece} {tail : List Char}
    (divides : Divides pieces tail) {located : Located} (member : located ∈ locate {} pieces)
    (takes : located.finding.takesBlanks = true) :
    (Lexing.ofPieces options pieces).TakesBlanks located.span := by
  obtain ⟨_, _, _, _, _, stands⟩ := exists_around divides member
  have form := stands.form
  have recorded : ∀ kind, located.token? = some ⟨kind, located.lexeme, located.span⟩ →
      ⟨kind, located.lexeme, located.span⟩ ∈ (Lexing.ofPieces options pieces).tokens :=
    fun kind found => List.mem_filterMap.mpr ⟨located, member, found⟩
  unfold Finding.takesBlanks at takes
  split at takes
  case h_1 comment =>
    exact .inl ⟨_, recorded .lineComment (by rw [Located.token?, comment]), rfl, .inl rfl⟩
  case h_2 comment =>
    rw [comment] at form
    exact .inl ⟨_, recorded .blockComment (by rw [Located.token?, comment]), rfl, .inr ⟨rfl, form⟩⟩
  case h_3 quote spoiled =>
    exact .inr ⟨_, mem_errorsOf_of_error member spoiled, rfl, rfl⟩
  case h_4 => cases takes

theorem untaken_ofPieces {pieces : List Piece} {tail : List Char} (divides : Divides pieces tail)
    {gaps : List (List Char)}
    (untaken : List.Forall₂
      (fun span new => (Lexing.ofPieces options pieces).TakesBlanks span → new = [])
      (Lexing.ofPieces options pieces).spans gaps) :
    List.Forall₂ (fun piece new => piece.finding.takesBlanks = true → new = []) pieces gaps := by
  rw [Lexing.spans_ofPieces options divides, List.forall₂_map_left_iff] at untaken
  have byFinding : List.Forall₂ (fun finding new => Finding.takesBlanks finding = true → new = [])
      ((locate {} pieces).map Located.finding) gaps := by
    rw [List.forall₂_map_left_iff, List.forall₂_iff_zip]
    obtain ⟨lengths, pairs⟩ := List.forall₂_iff_zip.mp untaken
    refine ⟨lengths, ?_⟩
    intro located new pair takes
    exact pairs pair (takesBlanks_ofPieces options divides (List.of_mem_zip pair).1 takes)
  rw [map_locate (fun _ => rfl), List.forall₂_map_left_iff] at byFinding
  exact byFinding

/-- With other gaps around its lexemes a text has the same records, but for the places. -/
theorem lexText_respaced (options : LexingOptions) {source : String}
    (short : source.length + 1 < counterLimit) :
    ∃ lexing, lexText options source = .ok lexing ∧
      interleave (lexing.gaps source.toList) (lexing.lexemes source.toList) = source.toList ∧
      ∀ gaps, lexing.Respaces source.toList gaps →
        (interleave gaps (lexing.lexemes source.toList)).length + 1 < counterLimit →
        ∃ other, lexText options
            (String.ofList (interleave gaps (lexing.lexemes source.toList))) = .ok other ∧
          other.tokens.map Token.content = lexing.tokens.map Token.content ∧
          other.errors.map LexicalError.content = lexing.errors.map LexicalError.content := by
  obtain ⟨pieces, tail, same, divides⟩ := exists_division source.toList
  refine ⟨_, (lexText_yields options divides same.symm).eq_ok short, ?_⟩
  rw [← same, Lexing.lexemes_ofPieces options divides, Lexing.gaps_ofPieces options divides]
  refine ⟨interleave_pieces pieces tail, ?_⟩
  rintro gaps ⟨blank, kept, untaken⟩ alsoShort
  rw [Lexing.gaps_ofPieces options divides] at kept
  obtain ⟨others, last, divided, text, unplaced⟩ :=
    divides.respaced blank kept (untaken_ofPieces options divides untaken)
  have lexed := @lexText_yields options others last divided
    (String.ofList (interleave gaps (pieces.map Piece.lexeme))) (by rw [String.toList_ofList, text])
  refine ⟨_, lexed.eq_ok (by rwa [String.length_ofList]), ?_⟩
  exact contents_ofPieces options unplaced

/-- Blanks may go before, between and behind a name and an operator that touch. -/
theorem lexText_respaced_sum :
    ∃ lexing other, lexText {} "a+" = .ok lexing ∧ lexText {} " a\t+ " = .ok other ∧
      other.tokens.map Token.content = lexing.tokens.map Token.content ∧
      other.errors.map LexicalError.content = lexing.errors.map LexicalError.content := by
  obtain ⟨lexing, lexed, _, respaced⟩ := @lexText_respaced {} "a+" (by decide)
  have found : lexText {} "a+" = .ok
      { tokens := [⟨.identifier, "a", ⟨0, 1, 1, 1⟩⟩, ⟨.operator, "+", ⟨1, 2, 1, 2⟩⟩]
        errors := [] } := by
    decide
  have isSum := Except.ok.inj (lexed.symm.trans found)
  have spans : lexing.spans = [⟨0, 1, 1, 1⟩, ⟨1, 2, 1, 2⟩] := by
    rw [isSum]
    simp [Lexing.spans, List.mergeSort_of_pairwise]
  have respaces : lexing.Respaces "a+".toList [[' '], ['\t'], [' ']] := by
    constructor
    · simp [isBlank]
    · rw [Lexing.gaps, spans]
      simp [gapsFrom]
    · rw [spans, isSum]
      simp [Lexing.TakesBlanks]
  have alsoShort := respaced [[' '], ['\t'], [' ']] respaces
  rw [Lexing.lexemes, spans] at alsoShort
  obtain ⟨other, alsoLexed, contents⟩ := alsoShort (by decide)
  exact ⟨lexing, other, lexed, alsoLexed, contents⟩

end ScriptLexer
