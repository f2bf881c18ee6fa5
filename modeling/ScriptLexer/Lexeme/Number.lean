import ScriptLexer.Lexeme.Basic

/-!
# Numbers

A number is an optional minus sign, digits with at most one decimal point, and an optional exponent.
Whatever begins like a number is read as one whole: a second point, an exponent without digits, a
point with nothing after it and a name right behind the digits spoil the lexeme and do not split it.
A lone point is a number; a minus sign is part of one only right before a digit or a point.
-/
namespace ScriptLexer

def isNumberChar (c : Char) : Bool := c.isDigit || c == '.'

def isExponentMark (c : Char) : Bool := c == 'e' || c == 'E'

/-- Digits, or digits around one point: how many characters, whether a point is among them, whether
it comes last, and what follows. -/
structure Mantissa where
  length : Nat
  pointed : Bool
  endsInPoint : Bool
  rest : List Char
  deriving DecidableEq, Repr

/-- The longest mantissa at the beginning of the text; either run of digits may be empty. -/
def Mantissa.read (text : List Char) : Mantissa :=
  let whole := runLength Char.isDigit text
  match text.dropWhile Char.isDigit with
  | '.' :: fraction =>
    let digits := runLength Char.isDigit fraction
    { length := whole + 1 + digits, pointed := true, endsInPoint := digits == 0,
      rest := fraction.dropWhile Char.isDigit }
  | rest => { length := whole, pointed := false, endsInPoint := false, rest }

/-- Closes a number of `length` characters before `rest`: a word right behind it joins the lexeme.
-/
def closeNumber (kind : Token.Kind) (length : Nat) (rest : List Char) : Reading :=
  match rest with
  | c :: _ =>
    if isWordStart c then
      { finding := .error .illegalIdentifier, length := length + runLength isWordChar rest }
    else
      { finding := .token kind, length }
  | [] => { finding := .token kind, length }

/-- Reads what follows an exponent mark, `length` characters in. -/
def readExponent (length : Nat) (text : List Char) : Reading :=
  let signs := match text with
    | c :: _ => if c == '+' || c == '-' then 1 else 0
    | [] => 0
  let text := text.drop signs
  let digits := runLength Char.isDigit text
  if digits = 0 then
    { finding := .error (.number .missingExponent)
      length := length + signs + runLength isWordChar text }
  else
    closeNumber .double (length + signs + digits) (text.dropWhile Char.isDigit)

/-- Reads a number whose sign takes `sign` characters and whose text begins with a digit or a
point. -/
def readUnsigned (sign : Nat) (text : List Char) : Reading :=
  let mantissa := Mantissa.read text
  let length := sign + mantissa.length
  let closing : Reading :=
    if mantissa.endsInPoint && 1 < length then
      { finding := .error (.number .trailingPoint), length }
    else
      closeNumber (if mantissa.pointed then .double else .integer) length mantissa.rest
  match mantissa.rest with
  | c :: rest =>
    if mantissa.pointed && c == '.' then
      { finding := .error (.number .secondPoint), length := sign + runLength isNumberChar text }
    else if isExponentMark c then
      readExponent (length + 1) rest
    else
      closing
  | [] => closing

/-- A number, if the text begins with a digit or a point, or with a minus sign before one of
them. -/
def readNumber (text : List Char) : Option Reading :=
  let sign := match text with
    | '-' :: _ => 1
    | _ => 0
  match text.drop sign with
  | c :: rest => if isNumberChar c then some (readUnsigned sign (c :: rest)) else none
  | [] => none

end ScriptLexer
