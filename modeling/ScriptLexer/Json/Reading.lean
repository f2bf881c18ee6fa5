import ScriptLexer.Json

/-!
# Reading JSON documents

A document is read in two passes. The first cuts the text into lexemes, one character after the
other; the second keeps the arrays and objects that are still open on a stack. Both know all of
JSON's white space and escapes, and of its values those that documents here are made of.
-/
namespace ScriptLexer.Json

inductive Lexeme where
  | beginArray
  | endArray
  | beginObject
  | endObject
  | comma
  | colon
  | number (value : Nat)
  | string (value : String)
  deriving DecidableEq, Repr

/-! ## From characters to lexemes -/

/-- Where in a lexeme the text stands. The characters of a string are kept with the latest first. -/
inductive ScanState where
  | between
  | number (value : Nat)
  | string (read : List Char)
  /-- Behind a backslash; the first half of a surrogate pair may wait for the second. -/
  | escape (read : List Char) (half : Option Nat)
  /-- Behind the backslash, the letter and some hexadecimal digits of a code unit. -/
  | unit (read : List Char) (half : Option Nat) (digits : List Nat)
  /-- Behind the first half of a surrogate pair. -/
  | pair (read : List Char) (half : Nat)
  deriving DecidableEq, Repr

def isSpace (c : Char) : Bool := c == ' ' || c == '\t' || c == '\n' || c == '\r'

/-- The string goes on behind a code unit, unless half a surrogate pair stands alone. -/
def ScanState.behindUnit (read : List Char) (half : Option Nat) (unit : Nat) : Option ScanState :=
  match half with
  | none =>
    if 0xD800 ≤ unit ∧ unit < 0xDC00 then some (.pair read unit)
    else if 0xDC00 ≤ unit ∧ unit < 0xE000 then none
    else some (.string (Char.ofNat unit :: read))
  | some high =>
    if 0xDC00 ≤ unit ∧ unit < 0xE000 then
      some (.string (Char.ofNat (0x10000 + (high - 0xD800) * 0x400 + (unit - 0xDC00)) :: read))
    else none

/-- The character that a letter stands for behind a backslash. -/
def unescape? : Char → Option Char
  | '"' => some '"'
  | '\\' => some '\\'
  | '/' => some '/'
  | 'b' => some '\x08'
  | 'f' => some '\x0c'
  | 'n' => some '\n'
  | 'r' => some '\r'
  | 't' => some '\t'
  | _ => none

/-- Passes a character that belongs to no lexeme before it. -/
def ScanState.enter (c : Char) : Option (List Lexeme × ScanState) :=
  match c with
  | '[' => some ([.beginArray], .between)
  | ']' => some ([.endArray], .between)
  | '\x7b' => some ([.beginObject], .between)
  | '\x7d' => some ([.endObject], .between)
  | ',' => some ([.comma], .between)
  | ':' => some ([.colon], .between)
  | '"' => some ([], .string [])
  | c =>
    if isSpace c then some ([], .between)
    else (Text.digitValue? 10 c).map fun digit => ([], .number digit)

/-- Passes a character, with the lexemes that it completes. A number has no zeros before its first
digit, and a string no control characters as they are. -/
def ScanState.pass (c : Char) : ScanState → Option (List Lexeme × ScanState)
  | between => enter c
  | number value =>
    match Text.digitValue? 10 c with
    | some digit => if value = 0 then none else some ([], .number (10 * value + digit))
    | none => (enter c).map fun (lexemes, next) => (.number value :: lexemes, next)
  | string read =>
    if c = '"' then some ([.string (String.ofList read.reverse)], .between)
    else if c = '\\' then some ([], .escape read none)
    else if c.toNat < 0x20 then none
    else some ([], .string (c :: read))
  | escape read half =>
    if c = 'u' then some ([], .unit read half [])
    else if half.isSome then none
    else (unescape? c).map fun plain => ([], .string (plain :: read))
  | unit read half digits =>
    match Text.digitValue? 16 c, digits with
    | some digit, [first, second, third] =>
      (behindUnit read half (((first * 16 + second) * 16 + third) * 16 + digit)).map fun next =>
        ([], next)
    | some digit, digits => some ([], .unit read half (digits ++ [digit]))
    | none, _ => none
  | pair read half => if c = '\\' then some ([], .escape read (some half)) else none

/-- The text may end between lexemes and behind a number. -/
def ScanState.finish : ScanState → Option (List Lexeme)
  | between => some []
  | number value => some [.number value]
  | _ => none

/-- The lexemes of a text that goes on from a place. -/
def scan : ScanState → List Char → Option (List Lexeme)
  | place, [] => place.finish
  | place, c :: rest =>
    match place.pass c with
    | some (lexemes, next) => (scan next rest).map (lexemes ++ ·)
    | none => none

/-! ## From lexemes to values -/

/-- An array or object that is still open, with what it holds so far; an object waits for the value
of a key. -/
inductive Frame where
  | items (done : List Json)
  | members (done : List (String × Json)) (key : String)

mutual

/-- Reads on where a value begins. -/
def readValue (stack : List Frame) : List Lexeme → Option Json
  | .number value :: rest => readBehind (.number value) stack rest
  | .string value :: rest => readBehind (.string value) stack rest
  | .beginArray :: .endArray :: rest => readBehind (.array []) stack rest
  | .beginArray :: rest => readValue (.items [] :: stack) rest
  | .beginObject :: .endObject :: rest => readBehind (.object []) stack rest
  | .beginObject :: .string key :: .colon :: rest => readValue (.members [] key :: stack) rest
  | _ => none

/-- Reads on behind a value. -/
def readBehind (value : Json) : List Frame → List Lexeme → Option Json
  | [], [] => some value
  | .items done :: stack, .comma :: rest => readValue (.items (done ++ [value]) :: stack) rest
  | .items done :: stack, .endArray :: rest => readBehind (.array (done ++ [value])) stack rest
  | .members done key :: stack, .comma :: .string next :: .colon :: rest =>
    readValue (.members (done ++ [(key, value)]) next :: stack) rest
  | .members done key :: stack, .endObject :: rest =>
    readBehind (.object (done ++ [(key, value)])) stack rest
  | _, _ => none

end

/-- The value of a document. -/
def decode (text : String) : Option Json := scan .between text.toList >>= readValue []

end ScriptLexer.Json
