import ScriptLexer.Text.Digit
import ScriptLexer.Toml.Value

/-!
# TOML strings

A string stands between double quotes, where a backslash escapes, or between single ones, where
nothing does; three quotes on each side let it go on over lines.
-/
namespace ScriptLexer.Toml

/-- The character of a hexadecimal code; surrogates and codes past the last character have none. -/
def charOfHex? (digits : List Char) : Option Char := do
  let code ← digits.foldlM (fun code digit => (Text.digitValue? 16 digit).map (16 * code + ·)) 0
  if code < 0xd800 ∨ (0xdfff < code ∧ code < 0x110000) then some (Char.ofNat code) else none

/-- What a one-letter escape stands for. -/
def escaped? : Char → Option Char
  | 'b' => some '\x08'
  | 't' => some '\t'
  | 'n' => some '\n'
  | 'f' => some '\x0c'
  | 'r' => some '\r'
  | '"' => some '"'
  | '\\' => some '\\'
  | _ => none

/-- An escape, its backslash already passed. -/
def readEscape : Reader Char
  | 'u' :: rest => (charOfHex? (rest.take 4)).bind fun c =>
    if 4 ≤ rest.length then some (c, rest.drop 4) else none
  | 'U' :: rest => (charOfHex? (rest.take 8)).bind fun c =>
    if 8 ≤ rest.length then some (c, rest.drop 8) else none
  | c :: rest => (escaped? c).map fun c => (c, rest)
  | [] => none

/-- The rest of a one-line string; `fuel` bounds its characters. -/
def readLine (escapes : Bool) (quote : Char) (read : List Char) : Nat → Reader (List Char)
  | 0, _ => none
  | _ + 1, [] => none
  | fuel + 1, c :: rest =>
    if c = quote then
      some (read.reverse, rest)
    else if escapes && c == '\\' then do
      let (c, rest) ← readEscape rest
      readLine escapes quote (c :: read) fuel rest
    else if isPlain c then
      readLine escapes quote (c :: read) fuel rest
    else
      none

/-- The text after the line breaks and blanks that an escaped line break takes away. -/
def skipFolded : List Char → List Char
  | '\r' :: '\n' :: rest => skipFolded rest
  | '\n' :: rest => skipFolded rest
  | c :: rest => if isBlank c then skipFolded rest else c :: rest
  | [] => []

/-- The rest of a string over lines. Up to two quotes in a row belong to it, and so do up to two
right before the three that end it. -/
def readLines (escapes : Bool) (quote : Char) (read : List Char) : Nat → Reader (List Char)
  | 0, _ => none
  | _ + 1, [] => none
  | fuel + 1, c :: rest =>
    if c = quote then
      let quotes := ((c :: rest).takeWhile (· == quote)).length
      let rest := (c :: rest).drop quotes
      if quotes < 3 then
        readLines escapes quote (List.replicate quotes quote ++ read) fuel rest
      else if quotes < 6 then
        some ((List.replicate (quotes - 3) quote ++ read).reverse, rest)
      else
        none
    else if escapes && c == '\\' then
      match newline? (skipBlanks rest) with
      | some rest => readLines escapes quote read fuel (skipFolded rest)
      | none => do
        let (c, rest) ← readEscape rest
        readLines escapes quote (c :: read) fuel rest
    else
      match newline? (c :: rest) with
      | some rest => readLines escapes quote ('\n' :: read) fuel rest
      | none => if isPlain c then readLines escapes quote (c :: read) fuel rest else none

/-- The quote that a string begins with, and whether it escapes. -/
def escapesIn? : Char → Option Bool
  | '"' => some true
  | '\'' => some false
  | _ => none

/-- A string on one line. -/
def readString : Reader (List Char)
  | quote :: rest => do readLine (← escapesIn? quote) quote [] rest.length rest
  | [] => none

/-- A string on one line or, between three quotes, over lines; a line break right after the opening
quotes is left out. -/
def readText : Reader (List Char)
  | a :: b :: c :: rest =>
    if a = b ∧ b = c ∧ (escapesIn? a).isSome then do
      let body := (newline? rest).getD rest
      readLines (← escapesIn? a) a [] body.length body
    else
      readString (a :: b :: c :: rest)
  | text => readString text

end ScriptLexer.Toml
