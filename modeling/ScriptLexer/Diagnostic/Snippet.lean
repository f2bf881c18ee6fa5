import ScriptLexer.Source

/-!
# Snippets

A snippet shows one source line and marks a range of its columns with carets underneath. A span that
goes on past its first line is marked up to the end of that line.
-/
namespace ScriptLexer

structure Snippet where
  line : String
  lineNumber : Nat
  /-- First marked column, counting from 1. -/
  startColumn : Nat
  /-- One past the last marked column. -/
  endColumn : Nat
  deriving DecidableEq, Repr

namespace Snippet

/-- The snippet under which a span is shown; none where the source has no such line. A span that
cuts nothing out of the source marks no column. -/
def ofSpan? (source : Source) (span : Span) : Option Snippet :=
  (source.line? span.line).map fun line =>
    let width := match source.textOf span with
      | .ok text => (Text.firstLine text).length
      | .error _ => 0
    { line := String.ofList line
      lineNumber := span.line
      startColumn := span.column
      endColumn := max (min (span.column + width) (line.length + 1)) span.column }

/-- Columns taken by the line number: as many as it has digits, and at least three. -/
def gutterWidth (snippet : Snippet) : Nat := max (toString snippet.lineNumber).length 3

private def blanks (n : Nat) : String := String.ofList (List.replicate n ' ')

/-- The line and its carets, each behind a gutter of one width; an empty range still gets one
caret. -/
def format (snippet : Snippet) : String :=
  let number := toString snippet.lineNumber
  let width := snippet.gutterWidth
  let carets := max (snippet.endColumn - snippet.startColumn) 1
  blanks (width - number.length) ++ number ++ " | " ++ snippet.line ++ "\n" ++
    blanks width ++ " | " ++ blanks (snippet.startColumn - 1) ++
    String.ofList (List.replicate carets '^')

end Snippet

end ScriptLexer
