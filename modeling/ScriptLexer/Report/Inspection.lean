import ScriptLexer.Diagnostic.Basic
import ScriptLexer.Lexing

/-!
# Inspection

An inspection reports the lexical errors of a source: each rendered against the source and followed
by an empty line, and how many there are under each code, the codes in the order in which they first
occur.
-/
namespace ScriptLexer

/-- Counts one more occurrence of `x`; what is new comes last. -/
def tallyOne {α : Type} [DecidableEq α] (x : α) : List (α × Nat) → List (α × Nat)
  | [] => [(x, 1)]
  | (y, count) :: others =>
    if y = x then (y, count + 1) :: others else (y, count) :: tallyOne x others

/-- How often each value occurs, in the order of first occurrence. -/
def tally {α : Type} [DecidableEq α] (xs : List α) : List (α × Nat) :=
  xs.foldl (fun counts x => tallyOne x counts) []

structure Inspection where
  sourceName : String
  rendered : String
  counts : List (Diagnostic.Code × Nat)
  deriving DecidableEq, Repr

namespace Inspection

/-- Reports the errors found in a source. -/
def ofErrors (source : Source) (errors : List LexicalError) : Inspection :=
  let diagnostics := (DiagnosticLog.addAll {} (errors.map LexicalError.diagnostic)).entries
  { sourceName := source.name
    rendered := String.join (diagnostics.map fun diagnostic => diagnostic.render source ++ "\n")
    counts := tally (diagnostics.filterMap Diagnostic.code) }

def errorCount (inspection : Inspection) : Nat :=
  inspection.counts.foldr (fun count others => count.2 + others) 0

private def renderCount (count : Diagnostic.Code × Nat) : String :=
  count.1.display ++ " x" ++ toString count.2

/-- One line: no errors, or how many and of which codes. -/
def summary (inspection : Inspection) : String :=
  match inspection.counts with
  | [] => inspection.sourceName ++ ": no lexical errors"
  | counts =>
    toString inspection.errorCount ++ " lexical error(s): " ++
      ", ".intercalate (counts.map renderCount)

end Inspection

end ScriptLexer
