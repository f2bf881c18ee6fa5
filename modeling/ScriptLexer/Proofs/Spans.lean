import Mathlib.Data.List.Dedup
import Mathlib.Data.List.Pairwise
import ScriptLexer.Proofs.Relocation

/-!
# Spans of a lexing

The records of a lexing name their spans, some of them twice: a token and an error may share one.
Cutting the text at the distinct spans gives lexemes with gaps around them. For the lexing that a
division gives, these are the lexemes, the gaps and the tail of that division.
-/
namespace ScriptLexer

/-- A span starts and ends before the other starts. -/
def Span.Precedes (first second : Span) : Prop :=
  first.start < second.start ∧ first.stop ≤ second.start

/-- The characters between two offsets, none where the offsets cut nothing. -/
def Text.cut (start stop : Nat) (text : List Char) : List Char :=
  (Text.slice start stop text).getD []

/-- What spans leave of a text from an offset on: a stretch before each and one behind the last. -/
def gapsFrom (start : Nat) (text : List Char) : List Span → List (List Char)
  | [] => [Text.cut start (Text.byteLength text) text]
  | span :: others => Text.cut start span.start text :: gapsFrom span.stop text others

/-- A gap, a lexeme, the next gap and so on, up to the last gap. -/
def interleave : List (List Char) → List (List Char) → List Char
  | gap :: gaps, lexeme :: lexemes => gap ++ (lexeme ++ interleave gaps lexemes)
  | gaps, lexemes => gaps.flatten ++ lexemes.flatten

namespace Lexing

/-- The distinct spans of all records, in the order of their starts. -/
def spans (lexing : Lexing) : List Span :=
  (lexing.tokens.map Token.span ++ lexing.errors.map LexicalError.span).dedup.mergeSort
    fun first second => decide (first.start ≤ second.start)

/-- What stands in the text at the spans. -/
def lexemes (lexing : Lexing) (text : List Char) : List (List Char) :=
  lexing.spans.map fun span => Text.cut span.start span.stop text

/-- What stands in the text before, between and behind the spans. -/
def gaps (lexing : Lexing) (text : List Char) : List (List Char) := gapsFrom 0 text lexing.spans

end Lexing

/-! ## Places of the pieces -/

theorem le_start_of_mem_locate {place : Place} {pieces : List Piece} {located : Located}
    (member : located ∈ locate place pieces) : place.position ≤ located.span.start := by
  obtain ⟨before, piece, after, _, rfl⟩ := exists_of_mem_locate member
  simp [Span.between]

/-- The lexemes of a division stand one behind the other. -/
theorem locate_pairwise {place : Place} {pieces : List Piece} {tail : List Char}
    (divides : Divides pieces tail) :
    (locate place pieces).Pairwise fun first second => first.span.Precedes second.span := by
  induction pieces generalizing place with
  | nil => exact List.Pairwise.nil
  | cons piece others ih =>
    obtain ⟨_, stands, rest⟩ := divides
    refine List.Pairwise.cons ?_ (ih rest)
    intro later member
    have behind := le_start_of_mem_locate member
    have positive := Text.byteLength_pos stands.form.begins.ne_nil
    rw [Place.position_past] at behind
    simp only [Span.Precedes, Span.between, Place.position_past _ piece.lexeme]
    omega

/-- Around a located lexeme a text has a front, which ends where its span starts, and a back. -/
theorem exists_around {pieces : List Piece} {tail : List Char} (divides : Divides pieces tail)
    {located : Located} (member : located ∈ locate {} pieces) :
    ∃ front back, textOf pieces tail = front ++ (located.lexeme.toList ++ back) ∧
      located.span.start = Text.byteLength front ∧
      located.span.stop = Text.byteLength front + Text.byteLength located.lexeme.toList ∧
      Stands located.finding located.lexeme.toList back := by
  obtain ⟨before, piece, after, rfl, rfl⟩ := exists_of_mem_locate member
  have split : textOf (before ++ piece :: after) tail =
      textOf before piece.gap ++ (piece.lexeme ++ textOf after tail) := by
    rw [textOf_append, textOf_cons, textOf_tail]
  refine ⟨textOf before piece.gap, textOf after tail, ?_, ?_, ?_, ?_⟩
  · rw [split, String.toList_ofList]
  · simp [Span.between]
  · simp [Span.between, textOf_tail]
  · rw [String.toList_ofList]
    exact divides.of_append.2.1

theorem slice_of_mem_locate {pieces : List Piece} {tail : List Char} (divides : Divides pieces tail)
    {located : Located} (member : located ∈ locate {} pieces) :
    Text.slice located.span.start located.span.stop (textOf pieces tail) =
      some located.lexeme.toList := by
  obtain ⟨front, back, same, start, stop, _⟩ := exists_around divides member
  rw [same, start, stop]
  exact Text.slice_append front _ back

/-- Cut at the spans of its pieces, a text leaves the gaps of the pieces and the tail. -/
theorem gapsFrom_locate (done : List Char) (pieces : List Piece) (tail : List Char) {place : Place}
    (reached : place.position = Text.byteLength done) :
    gapsFrom place.position (done ++ textOf pieces tail) ((locate place pieces).map Located.span) =
      pieces.map Piece.gap ++ [tail] := by
  induction pieces generalizing done place with
  | nil =>
    have cut := Text.slice_append done tail []
    rw [List.append_nil] at cut
    simp [gapsFrom, locate, Text.cut, reached, cut]
  | cons piece others ih =>
    have cut := Text.slice_append done piece.gap (piece.lexeme ++ textOf others tail)
    have later := @ih (done ++ (piece.gap ++ piece.lexeme))
      ((place.past piece.gap).past piece.lexeme) (by simp [reached, Nat.add_assoc])
    rw [locate, List.map_cons, gapsFrom, textOf_cons]
    simp only [Span.between, Text.cut, List.map_cons, List.cons_append]
    rw [Place.position_past place, reached, cut, Option.getD_some]
    simpa using later

theorem interleave_pieces (pieces : List Piece) (tail : List Char) :
    interleave (pieces.map Piece.gap ++ [tail]) (pieces.map Piece.lexeme) = textOf pieces tail := by
  induction pieces with
  | nil => simp [interleave]
  | cons piece others ih =>
    rw [List.map_cons, List.map_cons, List.cons_append, interleave, ih, textOf_cons]

/-! ## The lexing that a division gives -/

/-- Of spans one behind the other, two that start together are one. -/
theorem Span.eq_of_start_eq {spans : List Span} (ordered : spans.Pairwise Span.Precedes)
    {first second : Span} (among : first ∈ spans) (member : second ∈ spans)
    (together : first.start = second.start) : first = second := by
  have apart : spans.Pairwise fun first second => first.start ≠ second.start :=
    ordered.imp fun precedes => Nat.ne_of_lt precedes.1
  have symm : Std.Symm fun first second : Span => first.start ≠ second.start := ⟨fun _ _ => Ne.symm⟩
  by_contra different
  exact apart.forall among member different together

namespace Lexing

theorem spans_sorted (lexing : Lexing) :
    lexing.spans.Pairwise fun first second => first.start ≤ second.start := by
  have sorted : lexing.spans.Pairwise fun first second =>
      decide (first.start ≤ second.start) = true := by
    apply List.pairwise_mergeSort
    · intro first second third before after
      rw [decide_eq_true_eq] at before after ⊢
      omega
    · intro first second
      rw [Bool.or_eq_true, decide_eq_true_eq, decide_eq_true_eq]
      omega
  simpa only [decide_eq_true_eq] using sorted

theorem spans_nodup (lexing : Lexing) : lexing.spans.Nodup :=
  (List.mergeSort_perm _ _).nodup_iff.mpr (List.nodup_dedup _)

variable (options : LexingOptions) {pieces : List Piece} {tail : List Char}

/-- The spans of the records are those of the pieces. -/
theorem mem_spans_ofPieces (span : Span) : span ∈ (ofPieces options pieces).spans ↔
    span ∈ (locate {} pieces).map Located.span := by
  simp only [spans, List.mem_mergeSort, List.mem_dedup, List.mem_append, List.mem_map]
  constructor
  · rintro (⟨token, among, rfl⟩ | ⟨error, among, rfl⟩)
    · obtain ⟨located, member, found⟩ := exists_of_mem_tokensOf among
      exact ⟨located, member, (Located.of_token? found).2.symm⟩
    · obtain ⟨located, member, previous, found⟩ := exists_of_mem_errorsOf among
      exact ⟨located, member, (Located.span_of_mem_errors found).2.symm⟩
  · rintro ⟨located, member, rfl⟩
    cases found : located.token? with
    | some token =>
      have among : token ∈ tokensOf (locate {} pieces) :=
        List.mem_filterMap.mpr ⟨located, member, found⟩
      exact .inl ⟨token, among, (Located.of_token? found).2⟩
    | none =>
      obtain ⟨cause, spoiled⟩ := Located.exists_cause_of_token?_eq_none found
      exact .inr ⟨_, mem_errorsOf_of_error member spoiled, rfl⟩

theorem spans_ofPieces (divides : Divides pieces tail) :
    (ofPieces options pieces).spans = (locate {} pieces).map Located.span := by
  have ordered : ((locate {} pieces).map Located.span).Pairwise Span.Precedes :=
    List.pairwise_map.mpr (locate_pairwise divides)
  have ascending := ordered.imp fun precedes => Nat.le_of_lt precedes.1
  have nodup : ((locate {} pieces).map Located.span).Nodup := by
    refine ordered.imp ?_
    rintro first second ⟨before, _⟩ rfl
    omega
  have perm := (List.perm_ext_iff_of_nodup (spans_nodup _) nodup).mpr (mem_spans_ofPieces options)
  refine List.Perm.eq_of_pairwise ?_ (spans_sorted _) ascending perm
  intro first second among member le ge
  exact Span.eq_of_start_eq ordered ((mem_spans_ofPieces options first).mp among) member
    (Nat.le_antisymm le ge)

theorem lexemes_ofPieces (divides : Divides pieces tail) :
    (ofPieces options pieces).lexemes (textOf pieces tail) = pieces.map Piece.lexeme := by
  have cut : ∀ located ∈ locate {} pieces,
      Text.cut located.span.start located.span.stop (textOf pieces tail) =
        located.lexeme.toList := by
    intro located member
    rw [Text.cut, slice_of_mem_locate divides member, Option.getD_some]
  have read := @map_locate _ (fun located => located.lexeme.toList) (fun _ => rfl) {} pieces
  rw [lexemes, spans_ofPieces options divides, List.map_map]
  refine (List.map_congr_left cut).trans (read.trans ?_)
  simp [Piece.unplaced]

theorem gaps_ofPieces (divides : Divides pieces tail) :
    (ofPieces options pieces).gaps (textOf pieces tail) = pieces.map Piece.gap ++ [tail] := by
  rw [gaps, spans_ofPieces options divides]
  exact @gapsFrom_locate [] pieces tail {} rfl

end Lexing

end ScriptLexer
