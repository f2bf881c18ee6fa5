import ScriptLexer.Cursor

/-!
# Moves of a cursor

The moves that a scanner makes: it looks into the bytes of the text, cuts at byte offsets, passes
single characters, and goes round a loop until a turn ends it.
-/
namespace ScriptLexer

/-! ## Loops -/

/-- What a turn of a loop comes to. -/
inductive Turn (σ ρ : Type) where
  | more (next : σ)
  | done (result : ρ)

/-- Takes turns until one is the last. More than `budget` of them are a fault. -/
def takeTurns {σ ρ : Type} (turn : σ → Except Fault (Turn σ ρ)) : Nat → σ → Except Fault ρ
  | 0, _ => .error .stalled
  | budget + 1, state => do
    match ← turn state with
    | .more next => takeTurns turn budget next
    | .done result => return result

/-! ## Bytes and cuts -/

namespace Text

/-- The UTF-8 form. -/
def bytes (text : List Char) : List UInt8 := text.flatMap String.utf8EncodeChar

/-- The text before an offset. -/
def cutBefore (stop : Nat) (text : List Char) : Except Fault (List Char) :=
  match takeBytes stop text with
  | some front => .ok front
  | none => .error .outsideText

/-- The offset of the character `n` characters on, or of the end. -/
def offsetOf (n : Nat) (text : List Char) : Nat := byteLength (text.take n)

end Text

namespace Cursor

/-- The character `n` characters ahead, or the end mark. As long as all bytes up to there are ASCII,
the byte is read in place of the character. -/
def look (cursor : Cursor) (n : Nat) : Except Fault Char := do
  let ahead ← cursor.remaining
  let bytes := Text.bytes ahead
  if n < bytes.length && (bytes.take (n + 1)).all (· < 128) then
    match bytes[n]? with
    | some byte => return Char.ofUInt8 byte
    | none => throw .outsideText
  else
    return ahead[n]?.getD endMark

/-- The next `n` characters, cut off at a byte. -/
def cutAhead (cursor : Cursor) (n : Nat) : Except Fault (List Char) := do
  let ahead ← cursor.remaining
  Text.cutBefore (Text.offsetOf n ahead) ahead

/-- Passes one character, if there is one. -/
def advance (cursor : Cursor) : Except Fault Cursor := cursor.next.map Prod.snd

/-- Passes `n` characters one by one, fewer at the end of the text. -/
def walk : Nat → Cursor → Except Fault Cursor
  | 0, cursor => .ok cursor
  | n + 1, cursor => if cursor.isAtEnd then .ok cursor else cursor.advance >>= walk n

/-- Passes the next character if it satisfies `accepts`. -/
def eatTurn (accepts : Char → Bool) (cursor : Cursor) : Except Fault (Turn Cursor Cursor) := do
  if cursor.isAtEnd then
    return .done cursor
  else if accepts (← cursor.look 0) then
    return .more (← cursor.advance)
  else
    return .done cursor

/-- One more turn than the text has characters. -/
def turns (cursor : Cursor) : Nat := cursor.source.length + 1

/-- Passes characters one by one as long as they satisfy `accepts`. -/
def eatWhile (accepts : Char → Bool) (cursor : Cursor) : Except Fault Cursor :=
  takeTurns (eatTurn accepts) cursor.turns cursor

end Cursor

end ScriptLexer
