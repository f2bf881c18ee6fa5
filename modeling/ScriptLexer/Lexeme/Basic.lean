import ScriptLexer.LexicalError
import ScriptLexer.Token

/-!
# Readings

A reading is what the text ahead begins with: how many characters the lexeme takes, and what it is
found to be. Each family of lexemes reads the text ahead on its own and declines where it has none;
no reading depends on what came before.
-/
namespace ScriptLexer

/-- What a lexeme is found to be. -/
inductive Finding where
  | token (kind : Token.Kind)
  /-- A block comment that the text ends: a token, and an error only where that is asked for. -/
  | openComment
  | error (cause : Cause)
  deriving DecidableEq, Repr

/-- A lexeme at the beginning of the text: its number of characters and what it is. -/
structure Reading where
  finding : Finding
  length : Nat
  deriving DecidableEq, Repr

/-- Blanks separate lexemes and belong to none; a line break is not one of them. -/
def isBlank (c : Char) : Bool := c == ' ' || c == '\t' || c == '\r'

/-- Words begin with an ASCII letter or an underscore. -/
def isWordStart (c : Char) : Bool := c.isAlpha || c == '_'

/-- Words go on with ASCII letters, digits and underscores. -/
def isWordChar (c : Char) : Bool := c.isAlphanum || c == '_'

/-- Number of leading characters that satisfy `accepts`. -/
def runLength (accepts : Char → Bool) (text : List Char) : Nat :=
  (text.takeWhile accepts).length

end ScriptLexer
