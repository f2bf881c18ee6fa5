import ScriptLexer.Diagnostic.Snippet
import ScriptLexer.Source.Offsets

/-!
# Looking up a snippet

The line and the text that a snippet is made of are cut out of the source, and the columns that it
marks are added up in 64 bits, so a cut can leave the text and a sum can have no room.
-/
namespace ScriptLexer

/-- One past the largest offset. -/
def offsetLimit : Nat := Nat.pow 2 64

/-- One past the most bytes that a text can have. -/
def sizeLimit : Nat := Nat.pow 2 63

/-- The sum of two offsets, if there is room for it. -/
def checkedSum (a b : Nat) : Except Fault Nat :=
  if a + b < offsetLimit then .ok (a + b) else .error .counterOverflow

namespace Snippet

/-- As many columns as the first line of the covered text takes. -/
def coveredWidth : Except SpanError (List Char) → Nat
  | .ok text => (Text.firstLine text).length
  | .error _ => 0

/-- The snippet under which a span is shown, from a line and a text that are cut out and columns
that are added up. -/
def lookUp (source : Source) (span : Span) : Except Fault (Option Snippet) := do
  match ← source.lineAt span.line with
  | none => return none
  | some line =>
    let covered ← source.cutOut span
    let stop ← checkedSum span.column (coveredWidth covered)
    let full ← checkedSum line.length 1
    return some {
      line := String.ofList line
      lineNumber := span.line
      startColumn := span.column
      endColumn := max (min stop full) span.column }

end Snippet

end ScriptLexer
