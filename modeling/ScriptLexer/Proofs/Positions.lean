import ScriptLexer.Proofs.Run
import ScriptLexer.Proofs.Shift
import ScriptLexer.Proofs.Spans

/-!
# Positions

Line and column of a record are those of its start: they follow from the characters before it alone.
A source that finds its lines by splitting its text has the record on the same line, behind as many
characters.
-/
namespace ScriptLexer

namespace Source

/-- A line by its number, with the line break that ends it; the last line has none. -/
def endedLine? (source : Source) (number : Nat) : Option (List Char) :=
  match number with
  | 0 => none
  | index + 1 => source.rawLines[index]?.map fun line =>
    if index + 1 < source.lineCount then line ++ ['\n'] else line

/-- The offset at which a line starts: all lines before it are passed, with their line breaks. -/
def lineStart (source : Source) (number : Nat) : Nat :=
  Text.byteLength (Text.endedLines (source.rawLines.take (number - 1)))

/-- The lexeme stands in the source on the span, and the line and the column of the span are those
of its start, counted from the front of the text as well as found among the lines of the source. -/
structure Holds (source : Source) (lexeme : String) (span : Span) : Prop where
  counted : ∃ front, Text.takeBytes span.start source.text = some front ∧
    span.line = 1 + front.count '\n' ∧ span.column = 1 + (Text.lastLine front).length
  isLine : 1 ≤ span.line ∧ span.line ≤ source.lineCount
  onLine : ∃ before after, source.endedLine? span.line = some (before ++ after) ∧ after ≠ [] ∧
    span.column = 1 + before.length ∧
    span.start = source.lineStart span.line + Text.byteLength before ∧
    Text.slice (source.lineStart span.line)
      (source.lineStart span.line + Text.byteLength (before ++ after)) source.text =
      some (before ++ after)
  covered : source.textOf span = .ok lexeme.toList

variable {source : Source} {front back : List Char}

/-- The lines around a place in a source: as many are over as there are line breaks before it, and
the one it is on goes on with what lies ahead. -/
theorem exists_lines (text : source.text = front ++ back) (ahead : back ≠ []) :
    ∃ closed after more, closed.length = front.count '\n' ∧
      front = Text.endedLines closed ++ Text.lastLine front ∧ back = after ++ more ∧ after ≠ [] ∧
      closed.length < source.lineCount ∧ source.rawLines.take closed.length = closed ∧
      source.endedLine? (closed.length + 1) = some (Text.lastLine front ++ after) := by
  obtain ⟨closed, count, whole, goesOn⟩ := Text.splitLines_append front
  obtain ⟨first, others, split, ended⟩ := Text.exists_firstLine back
  have lines : source.rawLines = closed ++ (Text.lastLine front ++ first) :: others := by
    rw [rawLines, text]
    exact goesOn split
  have lineCount : source.lineCount = closed.length + 1 + others.length := by
    rw [Source.lineCount, lines, List.length_append, List.length_cons]
    omega
  have passed : source.rawLines.take closed.length = closed := by rw [lines, List.take_left]
  have found : source.rawLines[closed.length]? = some (Text.lastLine front ++ first) := by
    rw [lines, List.getElem?_append_right (Nat.le_refl _), Nat.sub_self]
    rfl
  rcases ended with ⟨rfl, rfl⟩ | ⟨nonempty, more, rfl⟩
  · refine ⟨closed, back, [], count, whole, (List.append_nil _).symm, ahead, by omega, passed, ?_⟩
    rw [endedLine?, found, Option.map_some, if_neg (by simp [lineCount])]
  · have several := List.length_pos_iff.mpr nonempty
    refine ⟨closed, first ++ ['\n'], more, count, whole, by simp, by simp, by omega, passed, ?_⟩
    rw [endedLine?, found, Option.map_some, if_pos (by omega), List.append_assoc]

/-- A lexeme that stands in the text behind `front` is where the source has it. -/
theorem holds_of_text {lexeme : String} {span : Span} {rest : List Char}
    (text : source.text = front ++ (lexeme.toList ++ rest)) (nonempty : lexeme.toList ≠ [])
    (start : span.start = Text.byteLength front)
    (stop : span.stop = Text.byteLength front + Text.byteLength lexeme.toList)
    (line : span.line = 1 + front.count '\n')
    (column : span.column = 1 + (Text.lastLine front).length) : source.Holds lexeme span := by
  obtain ⟨closed, after, more, count, whole, ahead, someAfter, inside, passed, onLine⟩ :=
    exists_lines text (by simp [nonempty])
  have number : span.line = closed.length + 1 := by rw [line, count, Nat.add_comm]
  have lineStart : source.lineStart span.line = Text.byteLength (Text.endedLines closed) := by
    rw [Source.lineStart, number, Nat.add_sub_cancel, passed]
  constructor
  case counted =>
    refine ⟨front, ?_, line, column⟩
    rw [text, start]
    exact Text.takeBytes_append front _
  case isLine => omega
  case onLine =>
    refine ⟨Text.lastLine front, after, number ▸ onLine, someAfter, column, ?_, ?_⟩
    · rw [lineStart, ← Text.byteLength_append, ← whole]
      exact start
    · have split :
          source.text = Text.endedLines closed ++ ((Text.lastLine front ++ after) ++ more) := by
        rw [text, ahead]
        conv => lhs; rw [whole]
        simp
      rw [lineStart, split]
      exact Text.slice_append _ _ more
  case covered =>
    have cut := Text.slice_append front lexeme.toList rest
    rw [← text, ← start] at cut
    have size : Text.byteLength source.text = span.stop + Text.byteLength rest := by
      rw [text, stop, Text.byteLength_append, Text.byteLength_append, Nat.add_assoc]
    rw [textOf, if_neg (by omega), if_neg (by omega), stop, ← start, cut]

end Source

/-- The place behind a text: the bytes, the line breaks and the characters behind the last of
them. -/
theorem Place.past_front (front : List Char) : ({} : Place).past front =
    { position := Text.byteLength front, line := 1 + front.count '\n',
      column := 1 + (Text.lastLine front).length } := by
  rw [Shift.past_eq]
  simp [Shift.place, Shift.behind]

/-- Where the lexemes of a division are located is where a source of that text has them. -/
theorem holds_of_mem_locate {pieces : List Piece} {tail : List Char} (divides : Divides pieces tail)
    {source : Source} (text : source.text = textOf pieces tail) {located : Located}
    (member : located ∈ locate {} pieces) : source.Holds located.lexeme located.span := by
  obtain ⟨before, piece, after, rfl, rfl⟩ := exists_of_mem_locate member
  have split : textOf (before ++ piece :: after) tail =
      textOf before piece.gap ++ ((String.ofList piece.lexeme).toList ++ textOf after tail) := by
    rw [textOf_append, textOf_cons, textOf_tail, String.toList_ofList]
  have nonempty := (divides.form piece (by simp)).begins.ne_nil
  have reached := Place.past_front (textOf before piece.gap)
  apply Source.holds_of_text (text.trans split)
  · rwa [String.toList_ofList]
  · simp [Span.between]
  · simp [Span.between, textOf_tail]
  · simp only [Span.between, reached]
  · simp only [Span.between, reached]

/-- Every token and every error is where its span says, by line and column as well as by offset, and
a source of the same text has it there. -/
theorem lexText_positions (options : LexingOptions) {content : String}
    (short : content.length + 1 < counterLimit) :
    ∃ lexing, lexText options content = .ok lexing ∧ ∀ name,
      (∀ token ∈ lexing.tokens, Source.Holds { name, content } token.lexeme token.span) ∧
        ∀ error ∈ lexing.errors, Source.Holds { name, content } error.lexeme error.span := by
  obtain ⟨pieces, tail, same, divides⟩ := exists_division content.toList
  refine ⟨_, (lexText_yields options divides same.symm).eq_ok short, ?_⟩
  intro name
  have text : ({ name, content } : Source).text = textOf pieces tail := same.symm
  exact Lexing.forall_records_ofPieces options fun _ => holds_of_mem_locate divides text

/-- A name behind digits stands on the second line, behind a character of two bytes on the first. -/
theorem lexText_positions_wideCharacter :
    ∃ lexing, lexText {} "é\n5a" = .ok lexing ∧
      lexing.errors.map LexicalError.span = [⟨0, 2, 1, 1⟩, ⟨3, 5, 2, 1⟩] ∧
      ∀ error ∈ lexing.errors,
        Source.Holds { name := "t", content := "é\n5a" } error.lexeme error.span := by
  obtain ⟨lexing, lexed, held⟩ := @lexText_positions {} "é\n5a" (by decide)
  have found : (lexText {} "é\n5a").map (fun lexing => lexing.errors.map LexicalError.span) =
      .ok [⟨0, 2, 1, 1⟩, ⟨3, 5, 2, 1⟩] := by
    decide +kernel
  rw [lexed] at found
  exact ⟨lexing, lexed, Except.ok.inj found, (held "t").2⟩

end ScriptLexer
