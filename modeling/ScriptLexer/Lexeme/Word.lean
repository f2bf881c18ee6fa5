import ScriptLexer.Lexeme.Basic
import ScriptLexer.Vocabulary

/-!
# Words

A word is as many word characters as there are, the first of them no digit; a reserved word is a
keyword and any other word an identifier.
-/
namespace ScriptLexer

/-- A word, if the text begins with one. -/
def readWord (text : List Char) : Option Reading :=
  match text with
  | [] => none
  | c :: _ =>
    if isWordStart c then
      let word := text.takeWhile isWordChar
      some {
        finding := .token (if isReserved (String.ofList word) then .keyword else .identifier)
        length := word.length }
    else
      none

end ScriptLexer
