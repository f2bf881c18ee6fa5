import ScriptLexer.Cursor.Moves

/-!
# Moves in place

A move of a cursor whose fault forgets the cursor cannot tell whether it had passed anything by
then. Here the moves are made in place, one character at a time: what a move answers stands beside
where the cursor is, also after a fault.
-/
namespace ScriptLexer

/-- What was answered, and what is left behind. A fault undoes nothing. -/
structure Attempt (σ α : Type) where
  answer : Except Fault α
  after : σ

namespace Attempt

variable {σ α β : Type}

/-- Goes on with an answer from where the first attempt has come to. -/
def andThen (first : Attempt σ α) (next : α → σ → Attempt σ β) : Attempt σ β :=
  match first.answer with
  | .ok value => next value first.after
  | .error fault => { answer := .error fault, after := first.after }

@[simp] theorem andThen_ok (value : α) (after : σ) (next : α → σ → Attempt σ β) :
    andThen { answer := .ok value, after } next = next value after := rfl

@[simp] theorem andThen_error (fault : Fault) (after : σ) (next : α → σ → Attempt σ β) :
    andThen { answer := .error fault, after } next = { answer := .error fault, after } := rfl

/-- The answer with what is left behind, which a fault forgets. -/
def settled (attempt : Attempt σ α) : Except Fault (α × σ) :=
  attempt.answer.map fun value => (value, attempt.after)

end Attempt

namespace Cursor

/-- Passes one character and answers it. The offset moves before the line or the column is counted,
so a counter without room finds it moved. -/
def passOne (cursor : Cursor) : Attempt Cursor Char :=
  match cursor.remaining with
  | .error fault => { answer := .error fault, after := cursor }
  | .ok [] => { answer := .ok endMark, after := cursor }
  | .ok (c :: _) =>
    if (cursor.place.after c).outOfRange then
      { answer := .error .counterOverflow
        after := cursor.restore
          { cursor.place with position := cursor.place.position + c.utf8Size } }
    else
      { answer := .ok c, after := cursor.restore (cursor.place.after c) }

/-- Passes up to `n` characters. -/
def passMany : Nat → Cursor → Attempt Cursor Unit
  | 0, cursor => { answer := .ok (), after := cursor }
  | n + 1, cursor =>
    if cursor.isAtEnd then { answer := .ok (), after := cursor }
    else cursor.passOne.andThen fun _ after => passMany n after

/-- What the last of `n + 1` moves by one character answers. -/
def passNth : Nat → Cursor → Attempt Cursor Char
  | 0, cursor => cursor.passOne
  | n + 1, cursor => cursor.passOne.andThen fun _ after => passNth n after

/-- Passes characters as long as they are accepted, at most `budget` of them. Who accepts them may
remember what was asked before. -/
def passWhile {σ : Type} (accepts : Char → σ → Bool × σ) : Nat → σ → Cursor → Attempt Cursor σ
  | 0, _, cursor => { answer := .error .stalled, after := cursor }
  | budget + 1, memory, cursor =>
    if cursor.isAtEnd then { answer := .ok memory, after := cursor }
    else
      match cursor.look 0 with
      | .error fault => { answer := .error fault, after := cursor }
      | .ok c =>
        let (accepted, memory) := accepts c memory
        if accepted then cursor.passOne.andThen fun _ after => passWhile accepts budget memory after
        else { answer := .ok memory, after := cursor }

end Cursor

end ScriptLexer
