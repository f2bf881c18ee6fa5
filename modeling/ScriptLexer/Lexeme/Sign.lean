import ScriptLexer.Lexeme.Basic
import ScriptLexer.Vocabulary

/-!
# Line breaks, operators and punctuation

Line breaks in direct succession are one lexeme. An operator of two characters is preferred to the
operator of one that it begins with.
-/
namespace ScriptLexer

/-- A run of line breaks, if the text begins with one. -/
def readNewlines (text : List Char) : Option Reading :=
  match runLength (· == '\n') text with
  | 0 => none
  | length => some { finding := .token .newline, length }

private def readShortOperator (c : Char) : Option Reading :=
  if shortOperators.contains c then some { finding := .token .operator, length := 1 } else none

/-- An operator, if the text begins with one. -/
def readOperator : List Char → Option Reading
  | first :: second :: _ =>
    if longOperators.contains (first, second) then
      some { finding := .token .operator, length := 2 }
    else
      readShortOperator first
  | [first] => readShortOperator first
  | [] => none

theorem readOperator_long {first second : Char} (long : (first, second) ∈ longOperators)
    (rest : List Char) :
    readOperator (first :: second :: rest) = some { finding := .token .operator, length := 2 } := by
  simp [readOperator, long]

theorem readOperator_short {first : Char} {rest : List Char}
    (single : ∀ second ∈ rest.head?, (first, second) ∉ longOperators) :
    readOperator (first :: rest) =
      if first ∈ shortOperators then some { finding := .token .operator, length := 1 }
      else none := by
  cases rest with
  | nil => simp [readOperator, readShortOperator]
  | cons second rest => simp [readOperator, readShortOperator, single second rfl]

/-- A punctuation sign, if the text begins with one. -/
def readPunctuation : List Char → Option Reading
  | c :: _ =>
    if punctuation.contains c then some { finding := .token .punctuation, length := 1 } else none
  | [] => none

end ScriptLexer
