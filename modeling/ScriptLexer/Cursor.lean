import ScriptLexer.Place

/-!
# Cursor

A cursor stands at a place in a text, looks ahead and moves on. A saved place can be restored
unchecked, so the place need not be on a character boundary; an operation that would then cut the
text there is a fault and moves nothing. The characters ahead are kept beside the place, so looking
ahead costs no search; `rest_eq` says that they are the ones the offset cuts off.
-/
namespace ScriptLexer

/-- Why a run stops short of an answer. -/
inductive Fault where
  /-- A cut outside the text or inside a character. -/
  | outsideText
  /-- A line, column or nesting depth without room in its counter. -/
  | counterOverflow
  /-- More steps than the text has characters. -/
  | stalled
  deriving DecidableEq, Repr

/-- What looking past the end of the text shows. -/
def endMark : Char := '\x00'

/-- A place in a text; `rest` is what lies ahead, or none where the offset cuts nothing. -/
structure Cursor where
  source : List Char
  place : Place
  rest : Option (List Char)
  rest_eq : rest = Text.dropBytes place.position source

namespace Cursor

/-- At the beginning of a text. -/
def ofText (source : List Char) : Cursor :=
  { source, place := {}, rest := some source, rest_eq := (Text.dropBytes_zero source).symm }

/-- Moves to any place, also one that is not on a character boundary. -/
def restore (cursor : Cursor) (place : Place) : Cursor :=
  { source := cursor.source
    place
    rest := Text.dropBytes place.position cursor.source
    rest_eq := rfl }

/-- At or past the last byte. -/
def isAtEnd (cursor : Cursor) : Bool :=
  match cursor.rest with
  | some rest => rest.isEmpty
  | none => decide (Text.byteLength cursor.source ≤ cursor.place.position)

/-- Passes the characters `taken`, which lie ahead. -/
def forward (cursor : Cursor) (taken rest : List Char)
    (ahead : cursor.rest = some (taken ++ rest)) : Except Fault Cursor :=
  if cursor.place.overflows taken then
    .error .counterOverflow
  else
    .ok {
      source := cursor.source
      place := cursor.place.past taken
      rest := some rest
      rest_eq := by
        rw [Place.position_past, Text.dropBytes_add (cursor.rest_eq.symm.trans ahead)] }

/-- Everything ahead. -/
def remaining (cursor : Cursor) : Except Fault (List Char) :=
  match cursor.rest with
  | some rest => .ok rest
  | none => .error .outsideText

/-- The character `n` characters ahead, or the end mark. -/
def peek (cursor : Cursor) (n : Nat) : Except Fault Char :=
  cursor.remaining.map fun rest => rest[n]?.getD endMark

/-- The next `n` characters, fewer at the end of the text. -/
def take (cursor : Cursor) (n : Nat) : Except Fault (List Char) :=
  cursor.remaining.map (List.take n)

/-- The text ahead begins with `lead`. -/
def startsWith (cursor : Cursor) (lead : List Char) : Except Fault Bool :=
  cursor.remaining.map lead.isPrefixOf

/-- Passes one character and returns it; at the end it stays and returns the end mark. -/
def next (cursor : Cursor) : Except Fault (Char × Cursor) :=
  match ahead : cursor.rest with
  | none => .error .outsideText
  | some [] => .ok (endMark, cursor)
  | some (c :: rest) => (cursor.forward [c] rest ahead).map fun after => (c, after)

/-- Passes up to `n` characters. -/
def nextn (cursor : Cursor) (n : Nat) : Except Fault Cursor :=
  if cursor.isAtEnd || n == 0 then
    .ok cursor
  else
    match ahead : cursor.rest with
    | none => .error .outsideText
    | some rest =>
      cursor.forward (rest.take n) (rest.drop n) (by rw [ahead, List.take_append_drop])

/-- Passes characters as long as they satisfy `accepts`. -/
def skipWhile (cursor : Cursor) (accepts : Char → Bool) : Except Fault Cursor :=
  if cursor.isAtEnd then
    .ok cursor
  else
    match ahead : cursor.rest with
    | none => .error .outsideText
    | some rest =>
      cursor.forward (rest.takeWhile accepts) (rest.dropWhile accepts)
        (by rw [ahead, List.takeWhile_append_dropWhile])

/-- The text from byte `start` up to the cursor. -/
def textSince (cursor : Cursor) (start : Nat) : Except Fault (List Char) :=
  match Text.slice start cursor.place.position cursor.source with
  | some text => .ok text
  | none => .error .outsideText

/-- The text between two cursors over one source, cut from what lies ahead of the first. -/
def textUpTo (start stop : Cursor) : Except Fault (List Char) :=
  if start.place.position ≤ stop.place.position then
    match start.rest.bind (Text.takeBytes (stop.place.position - start.place.position)) with
    | some text => .ok text
    | none => .error .outsideText
  else
    .error .outsideText

/-- Cutting ahead of the first cursor is cutting the source behind the second. -/
theorem textUpTo_eq_textSince (start stop : Cursor) (same : start.source = stop.source) :
    start.textUpTo stop = stop.textSince start.place.position := by
  unfold textUpTo textSince Text.slice
  rw [start.rest_eq, same]
  split <;> rfl

end Cursor

end ScriptLexer
