/-!
# TOML values

What a TOML document says: a table of values. Integers are 64 bits wide; a float and a date keep the
spelling they are written in, as nothing here computes with them.
-/
namespace ScriptLexer.Toml

inductive Value where
  | string (value : String)
  | integer (value : Int)
  | float (spelling : String)
  | boolean (value : Bool)
  | dateTime (spelling : String)
  | array (items : List Value)
  | table (entries : List (String × Value))
  deriving Inhabited

/-- A table by its keys, each at most once. -/
abbrev Table := List (String × Value)

/-- How deep arrays and tables may nest, and how many parts a key may have. -/
def depthLimit : Nat := 79

/-- Reads something at the beginning of a text and returns it with the text after it, or finds
none. -/
abbrev Reader (α : Type) := List Char → Option (α × List Char)

def isBlank (c : Char) : Bool := c == ' ' || c == '\t'

def skipBlanks (text : List Char) : List Char := text.dropWhile isBlank

/-- Control characters other than the tab stand in no comment and in no string. -/
def isPlain (c : Char) : Bool := c == '\t' || (0x20 ≤ c.toNat && c.toNat != 0x7f)

/-- The text after a line break, if it begins with one. -/
def newline? : List Char → Option (List Char)
  | '\n' :: rest => some rest
  | '\r' :: '\n' :: rest => some rest
  | _ => none

/-- The text after the end of its line: blanks and a comment may come before the break, and the end
of the text ends a line too. -/
def lineEnd? (text : List Char) : Option (List Char) :=
  let afterComment := match skipBlanks text with
    | '#' :: comment => comment.dropWhile isPlain
    | rest => rest
  match afterComment with
  | [] => some []
  | rest => newline? rest

/-- The text after blanks, line breaks and comments; a comment has to end with its line. -/
def skipLines? (inComment : Bool) : List Char → Option (List Char)
  | '\r' :: '\n' :: rest => skipLines? false rest
  | '\n' :: rest => skipLines? false rest
  | '#' :: rest => skipLines? true rest
  | c :: rest =>
    if inComment then
      if isPlain c then skipLines? true rest else none
    else if isBlank c then
      skipLines? false rest
    else
      some (c :: rest)
  | [] => if inComment then none else some []

end ScriptLexer.Toml
