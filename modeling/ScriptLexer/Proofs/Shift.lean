import ScriptLexer.Proofs.Relocation
import ScriptLexer.Proofs.Text.Lines

/-!
# Moving a text behind another

A text that follows another one starts at that one's end. Its offsets and lines grow by what stands
before it; its columns grow only on the line on which the first text ends.
-/
namespace ScriptLexer

/-- What offsets, lines and the columns of the first line grow by. -/
structure Shift where
  bytes : Nat
  lines : Nat
  columns : Nat
  deriving DecidableEq, Repr

namespace Shift

/-- The shift of a text that stands behind this one. -/
def behind (text : List Char) : Shift :=
  { bytes := Text.byteLength text
    lines := text.count '\n'
    columns := (Text.lastLine text).length }

def place (shift : Shift) (place : Place) : Place :=
  { position := place.position + shift.bytes
    line := place.line + shift.lines
    column := if place.line = 1 then place.column + shift.columns else place.column }

def span (shift : Shift) (span : Span) : Span :=
  { start := span.start + shift.bytes
    stop := span.stop + shift.bytes
    line := span.line + shift.lines
    column := if span.line = 1 then span.column + shift.columns else span.column }

/-- The end of a text is the beginning, shifted behind it. -/
theorem past_eq (text : List Char) : ({} : Place).past text = (behind text).place {} := by
  induction text using List.reverseRecOn with
  | nil => rfl
  | append_singleton text c ih =>
    rw [Place.past_append, ih, Place.past_cons, Place.past_nil]
    by_cases isBreak : c = '\n'
    · subst isBreak
      simp [Place.after, place, behind, Text.lastLine_append_break, Nat.add_assoc]
    · simp [Place.after, place, behind, Text.lastLine_append isBreak, isBreak, Nat.add_assoc]

variable (shift : Shift)

theorem place_after {place : Place} (first : 1 ≤ place.line) (c : Char) :
    (shift.place place).after c = shift.place (place.after c) := by
  by_cases isBreak : c = '\n'
  · have later : place.line + 1 ≠ 1 := by omega
    simp only [Place.after, Shift.place, if_pos isBreak, if_neg later, Place.mk.injEq]
    exact ⟨by omega, by omega, trivial⟩
  · simp only [Place.after, Shift.place, if_neg isBreak, Place.mk.injEq]
    refine ⟨by omega, trivial, ?_⟩
    split <;> omega

theorem one_le_line_past {place : Place} (first : 1 ≤ place.line) (text : List Char) :
    1 ≤ (place.past text).line := by
  induction text generalizing place with
  | nil => exact first
  | cons c rest ih =>
    refine ih ?_
    unfold Place.after
    split
    · exact Nat.le_add_left 1 _
    · exact first

theorem place_past {place : Place} (first : 1 ≤ place.line) (text : List Char) :
    (shift.place place).past text = shift.place (place.past text) := by
  induction text generalizing place with
  | nil => rfl
  | cons c rest ih =>
    rw [Place.past_cons, Place.past_cons, place_after shift first]
    exact ih (one_le_line_past first [c])

/-- Pieces that start at a shifted place are located where they were, shifted. -/
theorem locate_place {place : Place} (first : 1 ≤ place.line) (pieces : List Piece) :
    locate (shift.place place) pieces = (locate place pieces).map (Located.mapSpan shift.span) := by
  induction pieces generalizing place with
  | nil => rfl
  | cons piece others ih =>
    have start := one_le_line_past first piece.gap
    rw [locate, locate, List.map_cons, place_past shift first, place_past shift start,
      ih (one_le_line_past start piece.lexeme)]
    rfl

end Shift

end ScriptLexer
