/-!
# Diagnostic codes

A code is a prefix and a number; it is written with at least three digits, and codes are ordered by
prefix first and by number second.
-/
namespace ScriptLexer

/-- Writes a number with at least three digits. -/
def threeDigits (number : Nat) : String :=
  let digits := toString number
  String.ofList (List.replicate (3 - digits.length) '0') ++ digits

structure Diagnostic.Code where
  letters : String
  number : Nat
  deriving DecidableEq, Repr

namespace Diagnostic.Code

def display (code : Diagnostic.Code) : String := code.letters ++ threeDigits code.number

/-- How a code is described where its type is to be told too. -/
def describe (code : Diagnostic.Code) : String := "DiagnosticCode(" ++ code.display ++ ")"

/-- `a` comes before or with `b`: prefixes compare character by character. -/
def before (a b : Diagnostic.Code) : Bool :=
  decide (a.letters < b.letters) || (a.letters == b.letters && decide (a.number ≤ b.number))

/-- Codes in order; equal ones keep their places. -/
def sort (codes : List Diagnostic.Code) : List Diagnostic.Code := codes.mergeSort before

end Diagnostic.Code

end ScriptLexer
