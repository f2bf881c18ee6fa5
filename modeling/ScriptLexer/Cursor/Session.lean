import ScriptLexer.Cursor.Attempt

/-!
# Sessions with a cursor

A session asks a cursor for one thing after the other, and goes on after a fault from where the
fault has left the cursor.
-/
namespace ScriptLexer

/-- A cursor in use, with the places that were saved on the way. -/
structure Session where
  cursor : Cursor
  saved : List Place := []

/-- What a cursor can be asked for. -/
inductive Operation : Type 1 where
  | peek (n : Nat)
  | take (n : Nat)
  | startsWith (lead : List Char)
  | remaining
  | textSince (start : Nat)
  | next
  | nextn (n : Nat)
  /-- Passes characters as long as they are accepted; who accepts them may remember what was asked
  before. -/
  | skipWhile {σ : Type} (accepts : Char → σ → Bool × σ) (memory : σ)
  | save
  /-- Goes back to a place that was saved. -/
  | goBack (index : Nat)
  /-- Goes to any place, unchecked. -/
  | restore (place : Place)

namespace Operation

/-- Only looks at what is ahead of the cursor or behind it. -/
def isLook : Operation → Bool
  | peek _ | take _ | startsWith _ | remaining | textSince _ => true
  | _ => false

/-- Goes nowhere but where the cursor has been or can get by passing characters. -/
def isOwn : Operation → Bool
  | restore _ => false
  | _ => true

end Operation

inductive Answer where
  | done
  | character (c : Char)
  | text (text : List Char)
  | truth (holds : Bool)
  deriving DecidableEq, Repr

namespace Session

/-- At the beginning of a source. -/
def start (source : List Char) : Session := { cursor := Cursor.ofText source }

/-- Answers what is found and stays as it is. -/
def shows {α : Type} (session : Session) (encode : α → Answer) (found : Except Fault α) :
    Attempt Session Answer :=
  { answer := found.map encode, after := session }

/-- Answers for a move of the cursor and keeps where it has come to. -/
def moves {α : Type} (session : Session) (encode : α → Answer) (attempt : Attempt Cursor α) :
    Attempt Session Answer :=
  { answer := attempt.answer.map encode, after := { session with cursor := attempt.after } }

def perform (session : Session) : Operation → Attempt Session Answer
  | .peek n => session.shows .character (session.cursor.look n)
  | .take n => session.shows .text (session.cursor.cutAhead n)
  | .startsWith lead => session.shows .truth (session.cursor.startsWith lead)
  | .remaining => session.shows .text session.cursor.remaining
  | .textSince start => session.shows .text (session.cursor.textSince start)
  | .next => session.moves .character session.cursor.passOne
  | .nextn n => session.moves (fun _ => .done) (session.cursor.passMany n)
  | .skipWhile accepts memory =>
    session.moves (fun _ => .done) (session.cursor.passWhile accepts session.cursor.turns memory)
  | .save =>
    { answer := .ok .done
      after := { session with saved := session.saved ++ [session.cursor.place] } }
  | .goBack index =>
    match session.saved[index]? with
    | some place =>
      { answer := .ok .done, after := { session with cursor := session.cursor.restore place } }
    | none => { answer := .ok .done, after := session }
  | .restore place =>
    { answer := .ok .done, after := { session with cursor := session.cursor.restore place } }

/-- What operations leave behind, each going on from what the one before has left. -/
def after (session : Session) (operations : List Operation) : Session :=
  operations.foldl (fun session operation => (session.perform operation).after) session

/-- The cursor that operations on a source lead to. -/
def reached (source : List Char) (operations : List Operation) : Cursor :=
  ((start source).after operations).cursor

end Session

end ScriptLexer
