import ScriptLexer.Text.Digit
import ScriptLexer.Toml.Value

/-!
# TOML numbers and dates

Integers are decimal with a sign, or hexadecimal, octal or binary behind a marker, and fit 64 bits.
Floats have a fraction, an exponent or both, or are infinite or no number at all. A single
underscore may stand between two digits. Dates and times have fixed fields, each within its range.
-/
namespace ScriptLexer.Toml

open Text (digitValue?)

/-- Digits with single underscores between them, after the digits `read`, which are listed last
first. `wanted` says that a digit has to come next. -/
def readDigitsOnto (base : Nat) (read : List Nat) (wanted : Bool) : Reader (List Nat)
  | '_' :: rest => if wanted then none else readDigitsOnto base read true rest
  | c :: rest =>
    match digitValue? base c with
    | some digit => readDigitsOnto base (digit :: read) false rest
    | none => if wanted then none else some (read.reverse, c :: rest)
  | [] => if wanted then none else some (read.reverse, [])

/-- One digit or more. -/
def readDigits (base : Nat) : Reader (List Nat) := readDigitsOnto base [] true

def numberOf (base : Nat) (digits : List Nat) : Nat :=
  digits.foldl (fun n digit => base * n + digit) 0

/-- A sign, if there is one: whether it is a minus, and the text after it. -/
def readSign : List Char → Bool × List Char
  | '-' :: rest => (true, rest)
  | '+' :: rest => (false, rest)
  | rest => (false, rest)

/-- Decimal digits of which the first is a zero only if it is alone. -/
def readWhole (text : List Char) : Option (List Nat × List Char) := do
  let (digits, rest) ← readDigits 10 text
  match digits with
  | 0 :: _ :: _ => none
  | digits => some (digits, rest)

/-- The integer, if 64 bits hold it. -/
def integerInRange? (n : Int) : Option Value :=
  let limit : Int := Nat.pow 2 63
  if -limit ≤ n ∧ n < limit then some (.integer n) else none

private def readMarked (base : Nat) (text : List Char) : Option (Value × List Char) := do
  let (digits, rest) ← readDigits base text
  return (← integerInRange? (numberOf base digits), rest)

def readInteger : Reader Value
  | '0' :: 'x' :: rest => readMarked 16 rest
  | '0' :: 'o' :: rest => readMarked 8 rest
  | '0' :: 'b' :: rest => readMarked 2 rest
  | text => do
    let (negative, rest) := readSign text
    let (digits, rest) ← readWhole rest
    let size : Int := numberOf 10 digits
    return (← integerInRange? (if negative then -size else size), rest)

/-- The exponent of a float, zero where there is none. -/
def readFloatExponent (text : List Char) : Option (Int × List Char) :=
  match text with
  | c :: rest =>
    if c == 'e' || c == 'E' then do
      let (negative, rest) := readSign rest
      let (digits, rest) ← readDigits 10 rest
      let size : Int := numberOf 10 digits
      some (if negative then -size else size, rest)
    else
      some (0, text)
  | [] => some (0, [])

/-- The least magnitude that rounds to infinity in 64 bits. -/
def floatLimit : Nat := Nat.pow 2 1024 - Nat.pow 2 970

/-- `digits · 10 ^ exponent` rounds to infinity. Only exponents near the limit need comparing. -/
def roundsToInfinity (digits : List Nat) (exponent : Int) : Bool :=
  let significant := digits.dropWhile (· == 0)
  let top := exponent + significant.length
  if significant.isEmpty || top < 308 then false
  else if 310 < top then true
  else
    let n := numberOf 10 significant
    if exponent < 0 then decide (floatLimit * Nat.pow 10 exponent.natAbs ≤ n)
    else decide (floatLimit ≤ n * Nat.pow 10 exponent.natAbs)

/-- The text that stands before `rest` in `text`. -/
def spellingBefore (text rest : List Char) : String :=
  String.ofList (text.take (text.length - rest.length))

/-- A float. One too large to be finite is refused, unless it is negative. -/
def readFloat (text : List Char) : Option (Value × List Char) :=
  let (negative, unsigned) := readSign text
  match unsigned with
  | 'i' :: 'n' :: 'f' :: rest => some (.float (spellingBefore text rest), rest)
  | 'n' :: 'a' :: 'n' :: rest => some (.float (spellingBefore text rest), rest)
  | _ => do
    let (whole, rest) ← readWhole unsigned
    let (fraction, rest, marked) ← match rest with
      | '.' :: rest => (readDigits 10 rest).map fun (digits, rest) => (digits, rest, true)
      | 'e' :: _ => some ([], rest, true)
      | 'E' :: _ => some ([], rest, true)
      | _ => some ([], rest, false)
    let (exponent, rest) ← readFloatExponent rest
    if !marked ||
        (!negative && roundsToInfinity (whole ++ fraction) (exponent - fraction.length)) then
      none
    else
      some (.float (spellingBefore text rest), rest)

/-- A field of exactly `width` digits. -/
def readField (width : Nat) (text : List Char) : Option (Nat × List Char) := do
  let digits ← (text.take width).mapM (digitValue? 10)
  if digits.length = width then some (numberOf 10 digits, text.drop width) else none

private def expect (sign : Char) : List Char → Option (List Char)
  | c :: rest => if c = sign then some rest else none
  | [] => none

/-- How many days a month has. -/
def daysIn (year month : Nat) : Nat :=
  if month = 2 then
    if year % 4 = 0 ∧ (year % 100 ≠ 0 ∨ year % 400 = 0) then 29 else 28
  else if month = 4 ∨ month = 6 ∨ month = 9 ∨ month = 11 then 30
  else 31

/-- The text after a date. -/
def skipDate? (text : List Char) : Option (List Char) := do
  let (year, rest) ← readField 4 text
  let (month, rest) ← readField 2 (← expect '-' rest)
  let (day, rest) ← readField 2 (← expect '-' rest)
  if 1 ≤ month ∧ month ≤ 12 ∧ 1 ≤ day ∧ day ≤ daysIn year month then some rest else none

/-- The text after a time of day. A minute may have a leap second. -/
def skipTime? (text : List Char) : Option (List Char) := do
  let (hour, rest) ← readField 2 text
  let (minute, rest) ← readField 2 (← expect ':' rest)
  let (second, rest) ← readField 2 (← expect ':' rest)
  let rest ← match rest with
    | '.' :: rest =>
      if rest.head?.any Char.isDigit then some (rest.dropWhile Char.isDigit) else none
    | rest => some rest
  if hour ≤ 23 ∧ minute ≤ 59 ∧ second ≤ 60 then some rest else none

/-- The text after an offset from universal time, which may be missing. -/
def skipZone? : List Char → Option (List Char)
  | 'Z' :: rest => some rest
  | 'z' :: rest => some rest
  | c :: rest =>
    if c == '+' || c == '-' then do
      let (hour, rest) ← readField 2 rest
      let (minute, rest) ← readField 2 (← expect ':' rest)
      if hour ≤ 23 ∧ minute ≤ 59 then some rest else none
    else
      some (c :: rest)
  | [] => some []

/-- A date, a time, or a date and a time with an optional offset. -/
def readDateTime (text : List Char) : Option (Value × List Char) :=
  let finish := fun rest => (Value.dateTime (spellingBefore text rest), rest)
  match skipDate? text with
  | none => (skipTime? text).map finish
  | some rest =>
    let timed := match rest with
      | c :: time =>
        if c == 'T' || c == 't' || c == ' ' then (skipTime? time).bind skipZone? else none
      | [] => none
    some (finish (timed.getD rest))

/-- A number or a date. -/
def readNumberOrDate (text : List Char) : Option (Value × List Char) :=
  (readDateTime text).or ((readFloat text).or (readInteger text))

end ScriptLexer.Toml
