import ScriptLexer.Diagnostic.LookUp
import ScriptLexer.Proofs.Carets
import ScriptLexer.Proofs.Scanner.Moves
import ScriptLexer.Proofs.SourceLines
import ScriptLexer.Proofs.Text.Boundary

/-!
# Spans from anywhere

Nothing ties a span to the text that it is used with: its ends can stand anywhere and in any order,
and it can name any line and any column. Before the text is cut by a span, it is checked that the
cut will not fail, and before a line is shown for it, that there is such a line. What is then cut
and shown is put together from offsets and columns that are added up in 64 bits.
-/
namespace ScriptLexer

theorem checkedSum_eq {a b : Nat} (room : a + b < offsetLimit) :
    checkedSum a b = .ok (a + b) :=
  if_pos room

/-! ## Bytes of a cut -/

namespace Text

variable {start stop : Nat} {text cut : List Char}

theorem bytes_append (a b : List Char) : bytes (a ++ b) = bytes a ++ bytes b := List.flatMap_append

theorem length_bytes (text : List Char) : (bytes text).length = byteLength text := by
  induction text with
  | nil => rfl
  | cons c rest ih =>
    rw [byteLength_cons, ← ih, bytes, List.flatMap_cons, List.length_append,
      String.length_utf8EncodeChar]
    rfl

/-- The bytes of a slice are those between the two offsets. -/
theorem bytes_of_slice (found : slice start stop text = some cut) :
    bytes cut = ((bytes text).drop start).take (stop - start) := by
  obtain ⟨front, back, rfl, rfl, rfl⟩ := slice_eq_some_iff.mp found
  rw [bytes_append, bytes_append, ← length_bytes front, List.drop_left,
    Nat.add_sub_cancel_left, ← length_bytes cut, List.take_left]

theorem length_le_byteLength (text : List Char) : text.length ≤ byteLength text := by
  induction text with
  | nil => exact Nat.le_refl 0
  | cons c rest ih =>
    have positive := c.utf8Size_pos
    rw [List.length_cons, byteLength_cons]
    omega

theorem length_firstLine_le (text : List Char) : (firstLine text).length ≤ text.length := by
  have shorter := (List.takeWhile_prefix (l := text) (· != '\n')).length_le
  rcases firstLine_length text with same | ⟨_, less⟩
  · omega
  · omega

end Text

/-! ## The checks -/

namespace Source

variable {source : Source} {span : Span}

/-- The checks leave nothing to fail. -/
theorem cutOut_eq (source : Source) (span : Span) :
    source.cutOut span = .ok (source.textOf span) := by
  unfold cutOut textOf
  dsimp only
  split
  case isTrue => rfl
  case isFalse ordered =>
    split
    case isTrue => rfl
    case isFalse =>
      split
      case isTrue splits =>
        have uncut : Text.slice span.start span.stop source.text = none := by
          rw [Bool.or_eq_true, Bool.not_eq_true', Bool.not_eq_true', ← Bool.not_eq_true,
            ← Bool.not_eq_true, Text.isBoundary_iff, Text.isBoundary_iff] at splits
          exact Text.slice_eq_none_iff.mpr (.inr splits)
        rw [uncut]
      case isFalse fits =>
        simp only [Bool.or_eq_true, Bool.not_eq_true', not_or, Bool.not_eq_false,
          Text.isBoundary_iff] at fits
        obtain ⟨cut, found⟩ := Text.exists_slice_iff.mpr ⟨Nat.le_of_not_lt ordered, fits⟩
        rw [found]

theorem textOf_eq_ok_iff {text : List Char} :
    source.textOf span = .ok text ↔ Text.slice span.start span.stop source.text = some text := by
  constructor
  · intro covered
    unfold textOf at covered
    dsimp only at covered
    split at covered
    case isTrue => cases covered
    case isFalse =>
      split at covered
      case isTrue => cases covered
      case isFalse =>
        split at covered
        case h_1 found => rw [found, Except.ok.inj covered]
        case h_2 => cases covered
  · intro found
    obtain ⟨ordered, _, last⟩ := Text.exists_slice_iff.mp ⟨text, found⟩
    unfold textOf
    dsimp only
    rw [if_neg (Nat.not_lt.mpr ordered), if_neg (Nat.not_lt.mpr last.le), found]

/-- A line is a part of the text. -/
theorem length_le_of_line? {number : Nat} {line : List Char}
    (found : source.line? number = some line) :
    line.length ≤ Text.byteLength source.text := by
  cases number with
  | zero => cases found
  | succ index =>
    obtain ⟨raw, stands, rfl⟩ := Option.map_eq_some_iff.mp found
    obtain ⟨inside, rfl⟩ := List.getElem?_eq_some_iff.mp stands
    obtain ⟨ending, _, cut⟩ := Text.slice_startsFrom inside
    obtain ⟨front, back, split, _⟩ := Text.slice_eq_some_iff.mp cut
    obtain ⟨returns, trimmed, _⟩ := Text.exists_returns source.rawLines[index]
    have whole : ['\n'].intercalate source.rawLines = source.text :=
      Text.intercalate_splitLines source.text
    have size := Text.length_le_byteLength source.text
    have lengths := congrArg List.length (whole.symm.trans split)
    have kept := congrArg List.length trimmed
    simp only [List.length_append] at lengths kept
    omega

theorem break_notMem_line? {number : Nat} {line : List Char}
    (found : source.line? number = some line) : '\n' ∉ line := by
  cases number with
  | zero => cases found
  | succ index =>
    obtain ⟨raw, stands, rfl⟩ := Option.map_eq_some_iff.mp found
    have one := Text.break_notMem_splitLines source.text raw (List.mem_of_getElem? stands)
    exact fun member => one (Text.mem_of_mem_trimReturns member)

/-- A covered text is a part of the text. -/
theorem coveredWidth_le (source : Source) (span : Span) :
    Snippet.coveredWidth (source.textOf span) ≤ Text.byteLength source.text := by
  cases covered : source.textOf span with
  | error _ => exact Nat.zero_le _
  | ok text =>
    obtain ⟨front, back, split, _⟩ := Text.slice_eq_some_iff.mp (textOf_eq_ok_iff.mp covered)
    have size := Text.length_le_byteLength source.text
    have lengths := congrArg List.length split
    have first := Text.length_firstLine_le text
    simp only [List.length_append] at lengths
    rw [Snippet.coveredWidth]
    omega

end Source

/-! ## Snippets -/

namespace Snippet

variable {source : Source} {span : Span}

/-- With 32 bits for the column and as many bytes as a text can have, all sums have room. -/
theorem lookUp_eq (column : span.column < counterLimit)
    (size : Text.byteLength source.text < sizeLimit) :
    lookUp source span = .ok (ofSpan? source span) := by
  have room : counterLimit + sizeLimit ≤ offsetLimit := by decide
  unfold lookUp ofSpan?
  rw [source.lineAt_eq]
  cases found : source.line? span.line with
  | none => rfl
  | some line =>
    have width := source.coveredWidth_le span
    have full := Source.length_le_of_line? found
    have one : 1 ≤ counterLimit := by decide
    have stop := @checkedSum_eq span.column (Snippet.coveredWidth (source.textOf span)) (by omega)
    have past := @checkedSum_eq line.length 1 (by omega)
    simp only [bind, Except.bind, source.cutOut_eq, stop, past]
    cases source.textOf span <;> rfl

/-- What the snippet of a span shows, and how it is written: two lines behind gutters of one
width. -/
structure Frames (snippet : Snippet) (source : Source) (span : Span) : Prop where
  number : snippet.lineNumber = span.line
  line : source.line? span.line = some snippet.line.toList
  start : snippet.startColumn = span.column
  columns : span.column ≤ snippet.endColumn ∧
    snippet.endColumn ≤ max span.column (snippet.line.length + 1)
  gutters : snippet.numbered.length = snippet.margin.length
  written : Text.splitLines snippet.format.toList =
    [snippet.numbered ++ snippet.line.toList,
      snippet.margin ++ (List.replicate (span.column - 1) ' ' ++
        List.replicate (max (snippet.endColumn - span.column) 1) '^')]

theorem frames_of_mem {snippet : Snippet} (shown : snippet ∈ ofSpan? source span) :
    snippet.Frames source span := by
  obtain ⟨line, found, rfl⟩ := Option.map_eq_some_iff.mp shown
  constructor
  case number => rfl
  case line => rw [found, String.toList_ofList]
  case start => rfl
  case columns =>
    rw [String.length_ofList]
    dsimp only
    omega
  case gutters => exact numbered_length _
  case written =>
    have oneLine := Source.break_notMem_line? found
    rw [← String.toList_ofList (l := line)] at oneLine
    exact splitLines_format oneLine

end Snippet

namespace Source

/-- What can be told of a span, whatever it is, about a source. -/
structure Bears (source : Source) (span : Span) : Prop where
  size : Text.byteLength source.text = (Text.bytes source.text).length
  cut : source.cutOut span = .ok (source.textOf span)
  covered : (∃ text, source.textOf span = .ok text) ↔
    span.start ≤ span.stop ∧ span.stop ≤ Text.byteLength source.text ∧
      Text.IsOffset span.start source.text ∧ Text.IsOffset span.stop source.text
  bytes : ∀ text, source.textOf span = .ok text →
    Text.bytes text = ((Text.bytes source.text).drop span.start).take (span.stop - span.start)
  disordered : span.stop < span.start →
    source.textOf span = .error (.disordered span.start span.stop)
  outOfBounds : span.start ≤ span.stop → Text.byteLength source.text < span.stop →
    source.textOf span = .error (.outOfBounds (Text.byteLength source.text) span.start span.stop)
  splits : span.start ≤ span.stop → span.stop ≤ Text.byteLength source.text →
    ¬ (Text.IsOffset span.start source.text ∧ Text.IsOffset span.stop source.text) →
    source.textOf span = .error .splitsCharacter
  /-- No cut and no sum fails on the way to the snippet. -/
  found : span.column < counterLimit → Text.byteLength source.text < sizeLimit →
    Snippet.lookUp source span = .ok (Snippet.ofSpan? source span)
  shown : (Snippet.ofSpan? source span).isSome = true ↔ 1 ≤ span.line ∧ span.line ≤ source.lineCount
  framed : ∀ snippet ∈ Snippet.ofSpan? source span, snippet.Frames source span

/-- No span is too wrong for a source. -/
theorem bears_any_span (source : Source) (span : Span) : source.Bears span := by
  have covered : (∃ text, source.textOf span = .ok text) ↔
      span.start ≤ span.stop ∧ Text.IsOffset span.start source.text ∧
      Text.IsOffset span.stop source.text := by
    simp only [textOf_eq_ok_iff]
    exact Text.exists_slice_iff
  constructor
  case size => exact (Text.length_bytes source.text).symm
  case cut => exact source.cutOut_eq span
  case covered =>
    rw [covered]
    constructor
    · rintro ⟨ordered, first, last⟩
      exact ⟨ordered, last.le, first, last⟩
    · rintro ⟨ordered, _, offsets⟩
      exact ⟨ordered, offsets⟩
  case bytes => exact fun text found => Text.bytes_of_slice (textOf_eq_ok_iff.mp found)
  case disordered => exact fun wrong => if_pos wrong
  case outOfBounds =>
    intro ordered beyond
    unfold textOf
    dsimp only
    rw [if_neg (Nat.not_lt.mpr ordered), if_pos beyond]
  case splits =>
    intro ordered inside split
    have uncut : Text.slice span.start span.stop source.text = none :=
      Text.slice_eq_none_iff.mpr (.inr (not_and_or.mp split))
    unfold textOf
    dsimp only
    rw [if_neg (Nat.not_lt.mpr ordered), if_neg (Nat.not_lt.mpr inside), uncut]
  case found => exact fun column size => Snippet.lookUp_eq column size
  case shown =>
    rw [Snippet.ofSpan?, Option.isSome_map]
    exact source.line?_isSome_iff span.line
  case framed => exact fun snippet shown => Snippet.frames_of_mem shown

/-- A span that goes on past the end marks no more than one column, however far it is off its
line. -/
example : (Snippet.ofSpan? { name := "t", content := "é\nab" } ⟨1, 9, 1, 4⟩).map Snippet.format =
    some "  1 | é\n    |    ^" := by decide +kernel

end Source

end ScriptLexer
