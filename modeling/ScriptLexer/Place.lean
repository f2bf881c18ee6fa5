import ScriptLexer.Text.Offset

/-!
# Places and spans

A place is a byte offset together with the line and the column it stands on; both count from 1, and
columns count characters. A span is a pair of offsets with the line and column of the first. Lines
and columns are 32-bit counters: walking over a text that would take either past its last value is a
fault, which `Place.overflows` detects beforehand.
-/
namespace ScriptLexer

/-- One past the largest line, column or nesting depth. -/
def counterLimit : Nat := Nat.pow 2 32

/-- Where a reader stands in a text. -/
structure Place where
  position : Nat := 0
  line : Nat := 1
  column : Nat := 1
  deriving DecidableEq, Repr, Inhabited

namespace Place

/-- The place after one character: a line break starts column 1 of the next line. -/
def after (place : Place) (c : Char) : Place :=
  if c = '\n' then
    { position := place.position + c.utf8Size, line := place.line + 1, column := 1 }
  else
    { position := place.position + c.utf8Size, line := place.line, column := place.column + 1 }

/-- The place after a text. -/
def past (place : Place) (text : List Char) : Place :=
  text.foldl after place

/-- A line or column that has no room in its counter. -/
def outOfRange (place : Place) : Bool :=
  decide (counterLimit ≤ place.line) || decide (counterLimit ≤ place.column)

/-- Walking over the text takes a counter past its limit at some character. -/
def overflows (place : Place) : List Char → Bool
  | [] => false
  | c :: rest => (place.after c).outOfRange || (place.after c).overflows rest

@[simp] theorem past_nil (place : Place) : place.past [] = place := rfl

@[simp] theorem past_cons (place : Place) (c : Char) (rest : List Char) :
    place.past (c :: rest) = (place.after c).past rest := rfl

@[simp] theorem past_append (place : Place) (a b : List Char) :
    place.past (a ++ b) = (place.past a).past b := by
  simp [past, List.foldl_append]

@[simp] theorem position_after (place : Place) (c : Char) :
    (place.after c).position = place.position + c.utf8Size := by
  unfold after; split <;> rfl

@[simp] theorem position_past (place : Place) (text : List Char) :
    (place.past text).position = place.position + Text.byteLength text := by
  induction text generalizing place with
  | nil => simp
  | cons c rest ih => simp [ih, Nat.add_assoc]

end Place

/-- A stretch of a text: two byte offsets, and the line and column of the first. Nothing ties the
four together, so a span can also be wrong for the text it is used with. -/
structure Span where
  start : Nat := 0
  stop : Nat := 0
  line : Nat := 0
  column : Nat := 0
  deriving DecidableEq, Repr, Inhabited

namespace Span

/-- The span that stands for no place at all. -/
def unknown : Span := {}

/-- From one place up to another. -/
def between (start stop : Place) : Span :=
  { start := start.position, stop := stop.position, line := start.line, column := start.column }

/-- Length in bytes; zero when the ends are in the wrong order. -/
def length (span : Span) : Nat := span.stop - span.start

def isEmpty (span : Span) : Bool := decide (span.start = span.stop)

def isUnknown (span : Span) : Bool := decide (span = unknown)

end Span

end ScriptLexer
