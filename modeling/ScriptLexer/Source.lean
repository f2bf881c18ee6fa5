import ScriptLexer.Place
import ScriptLexer.Text.Literal

/-!
# Sources

A source is a named text. A reader is shown its lines without line breaks and without the carriage
returns before them. A span may come from anywhere, so cutting a source by one can fail in three
ways.
-/
namespace ScriptLexer

namespace Text

/-- The pieces between line breaks; a text without any is one piece. -/
def splitLines (text : List Char) : List (List Char) :=
  text.foldr
    (fun c lines =>
      match c, lines with
      | '\n', lines => [] :: lines
      | c, line :: others => (c :: line) :: others
      | c, [] => [[c]])
    [[]]

/-- The text without the carriage returns at its end. -/
def trimReturns (line : List Char) : List Char :=
  (line.reverse.dropWhile (· == '\r')).reverse

/-- The text before the first line break. A carriage return right before that break belongs to it;
without a line break nothing is left out. -/
def firstLine (text : List Char) : List Char :=
  let line := text.takeWhile (· != '\n')
  if line.length < text.length ∧ line.getLast? = some '\r' then line.dropLast else line

end Text

/-- A named text. -/
structure Source where
  name : String
  content : String
  deriving DecidableEq, Repr

/-- Why a span cuts nothing out of a source. -/
inductive SpanError where
  | disordered (start stop : Nat)
  | outOfBounds (size start stop : Nat)
  | splitsCharacter
  deriving DecidableEq, Repr

def SpanError.message : SpanError → String
  | disordered start stop =>
    "Invalid span: start " ++ toString start ++ " > end " ++ toString stop
  | outOfBounds size start stop =>
    "Span out of bounds: file has " ++ toString size ++ " bytes, span is " ++ toString start ++
      ".." ++ toString stop
  | splitsCharacter => "Failed to extract source: Range is not on character boundaries"

namespace Source

def text (source : Source) : List Char := source.content.toList

/-- The lines as they stand between line breaks. -/
def rawLines (source : Source) : List (List Char) := Text.splitLines source.text

def lineCount (source : Source) : Nat := source.rawLines.length

/-- A line by its number, which counts from 1. -/
def line? (source : Source) (number : Nat) : Option (List Char) :=
  match number with
  | 0 => none
  | index + 1 => source.rawLines[index]?.map Text.trimReturns

/-- The text that a span covers. -/
def textOf (source : Source) (span : Span) : Except SpanError (List Char) :=
  let size := Text.byteLength source.text
  if span.stop < span.start then
    .error (.disordered span.start span.stop)
  else if size < span.stop then
    .error (.outOfBounds size span.start span.stop)
  else
    match Text.slice span.start span.stop source.text with
    | some text => .ok text
    | none => .error .splitsCharacter

/-- A one-line description: the name, written as a literal, and the number of lines. -/
def describe (source : Source) : String :=
  "SourceFile \x7b name: " ++ Text.literal source.name ++ ", line_count: " ++
    toString source.lineCount ++ " \x7d"

end Source

end ScriptLexer
