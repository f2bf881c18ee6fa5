import ScriptLexer.Cursor
import ScriptLexer.Source

/-!
# Cutting a source at offsets

The lines of a source can be cut out at the offsets at which they start, and the text under a span
at the offsets of the span. A cut outside the text or inside a character would be a fault.
-/
namespace ScriptLexer

namespace Text

/-- The offsets behind the line breaks of a text that begins at `offset`. -/
def breakEnds (offset : Nat) : List Char → List Nat
  | [] => []
  | c :: rest =>
    if c = '\n' then (offset + 1) :: breakEnds (offset + c.utf8Size) rest
    else breakEnds (offset + c.utf8Size) rest

/-- The text without the line breaks and carriage returns at its end. -/
def trimLineEnd (text : List Char) : List Char :=
  (text.reverse.dropWhile fun c => c == '\n' || c == '\r').reverse

end Text

namespace Source

/-- The offsets at which lines start: the front of the text, and behind each line break. -/
def lineStarts (source : Source) : List Nat := 0 :: Text.breakEnds 0 source.text

/-- A line by its number, cut out from where it starts up to where the next one does, or up to the
end. A cut outside the text would be a fault. -/
def lineAt (source : Source) (number : Nat) : Except Fault (Option (List Char)) :=
  match number with
  | 0 => .ok none
  | index + 1 =>
    match source.lineStarts[index]? with
    | none => .ok none
    | some start =>
      let stop := source.lineStarts[index + 1]?.getD (Text.byteLength source.text)
      match Text.slice start stop source.text with
      | some line => .ok (some (Text.trimLineEnd line))
      | none => .error .outsideText

/-- The text that a span covers, cut out after three checks. A cut outside the text or inside a
character would be a fault. -/
def cutOut (source : Source) (span : Span) : Except Fault (Except SpanError (List Char)) :=
  let size := Text.byteLength source.text
  if span.stop < span.start then
    .ok (.error (.disordered span.start span.stop))
  else if size < span.stop then
    .ok (.error (.outOfBounds size span.start span.stop))
  else if !Text.isBoundary span.start source.text || !Text.isBoundary span.stop source.text then
    .ok (.error .splitsCharacter)
  else
    match Text.slice span.start span.stop source.text with
    | some text => .ok (.ok text)
    | none => .error .outsideText

end Source

end ScriptLexer
