import ScriptLexer.Text.Digit

/-!
# JSON documents

The part of JSON that reports are made of, and its layout over many lines: two blanks of indentation
per level, one element or member per line, and nothing between the brackets of an empty one. Inside
strings only the quote, the backslash and control characters are escaped.
-/
namespace ScriptLexer

inductive Json where
  | number (value : Nat)
  | string (value : String)
  | array (items : List Json)
  /-- Members in the order in which they are written. -/
  | object (members : List (String × Json))

namespace Json

/-- How a character is written inside a string. -/
def escapeChar (c : Char) : List Char :=
  match c with
  | '"' => ['\\', '"']
  | '\\' => ['\\', '\\']
  | '\n' => ['\\', 'n']
  | '\r' => ['\\', 'r']
  | '\t' => ['\\', 't']
  | '\x08' => ['\\', 'b']
  | '\x0c' => ['\\', 'f']
  | c =>
    if c.toNat < 0x20 then
      ['\\', 'u', '0', '0', Text.hexDigit (c.toNat / 16), Text.hexDigit (c.toNat % 16)]
    else
      [c]

/-- A string between quotes. -/
def quote (s : String) : List Char := '"' :: s.toList.flatMap escapeChar ++ ['"']

/-- A line break and the indentation of the next line. -/
def newLine (indent : Nat) : List Char := '\n' :: List.replicate indent ' '

mutual

/-- The value laid out with its first line begun and `indent` blanks before the others. -/
def layOut (indent : Nat) : Json → List Char
  | number value => (toString value).toList
  | string value => quote value
  | array [] => ['[', ']']
  | array (item :: items) =>
    '[' :: newLine (indent + 2) ++ item.layOut (indent + 2) ++ layOutItems (indent + 2) items ++
      newLine indent ++ [']']
  | object [] => ['\x7b', '\x7d']
  | object ((key, value) :: members) =>
    '\x7b' :: newLine (indent + 2) ++ quote key ++ [':', ' '] ++ value.layOut (indent + 2) ++
      layOutMembers (indent + 2) members ++ newLine indent ++ ['\x7d']

/-- Further items, each after a comma. -/
def layOutItems (indent : Nat) : List Json → List Char
  | [] => []
  | item :: items => ',' :: newLine indent ++ item.layOut indent ++ layOutItems indent items

/-- Further members, each after a comma. -/
def layOutMembers (indent : Nat) : List (String × Json) → List Char
  | [] => []
  | (key, value) :: members =>
    ',' :: newLine indent ++ quote key ++ [':', ' '] ++ value.layOut indent ++
      layOutMembers indent members

end

/-- The text of a document. -/
def render (value : Json) : String := String.ofList (value.layOut 0)

end Json

end ScriptLexer
