import ScriptLexer.Proofs.Grammar.Basic
import ScriptLexer.Proofs.Scanner.Moves
import ScriptLexer.Scanner

/-!
# What a scanner does

A scanner finds a lexeme that stands ahead, or it declines and changes nothing. What it records
behind a lexeme that it has passed is the token or the error that is recorded when the lexeme is
read ahead.
-/
namespace ScriptLexer

/-- The errors that scanners record about a lexeme that they spoil. -/
def scannerCodes : List ErrorCode := [.unterminatedString, .malformedNumber, .illegalIdentifier]

/-- What a scanner may find a lexeme to be. -/
def Finding.OfScanner : Finding → Prop
  | .error cause => cause.code ∈ scannerCodes
  | _ => True

namespace LexingState

/-- The state behind a lexeme that stands ahead, with the lexeme recorded. -/
def behind (options : LexingOptions) (finding : Finding) (lexeme : List Char)
    (state : LexingState) : LexingState :=
  (state.moved (state.cursor.past lexeme)).record options finding (String.ofList lexeme)
    (Span.between state.cursor.place (state.cursor.place.past lexeme))

variable {options : LexingOptions} {state : LexingState} {lexeme rest : List Char} {size : Nat}

/-- Wherever the cursor is behind a lexeme, a token with just that lexeme can be recorded. -/
theorem closeToken_past {cursor : Cursor} (faces : cursor.Faces size (lexeme ++ rest))
    (there : state.cursor = cursor.past lexeme) (kind : Token.Kind) :
    state.closeToken kind cursor.place =
      .ok (state.pushToken kind (String.ofList lexeme)
        (Span.between cursor.place (cursor.place.past lexeme))) := by
  rw [closeToken, there, faces.textSince]
  rfl

theorem closeError_past {cursor : Cursor} (faces : cursor.Faces size (lexeme ++ rest))
    (there : state.cursor = cursor.past lexeme) (cause : Cause) :
    state.closeError cause cursor.place =
      .ok (state.pushError cause (String.ofList lexeme)
        (Span.between cursor.place (cursor.place.past lexeme))) := by
  rw [closeError, there, faces.textSince]
  rfl

/-- A token other than an operator is recorded whatever is recorded before. -/
theorem closeToken_behind (faces : state.cursor.Faces size (lexeme ++ rest)) {kind : Token.Kind}
    (noOperator : kind ≠ .operator) :
    (state.moved (state.cursor.past lexeme)).closeToken kind state.cursor.place =
      .ok (state.behind options (.token kind) lexeme) := by
  rw [closeToken_past faces rfl]
  cases kind with
  | operator => exact absurd rfl noOperator
  | _ => rfl

theorem closeError_behind (faces : state.cursor.Faces size (lexeme ++ rest)) (cause : Cause) :
    (state.moved (state.cursor.past lexeme)).closeError cause state.cursor.place =
      .ok (state.behind options (.error cause) lexeme) :=
  closeError_past faces rfl cause

end LexingState

namespace Scanner

/-- The scanner of the family passes the lexeme and records it as the finding, and the family reads
the same ahead. -/
structure Finds (options : LexingOptions) (family : Family) (state : LexingState) (size : Nat)
    (finding : Finding) (lexeme rest : List Char) : Prop where
  nonempty : lexeme ≠ []
  ofScanner : finding.OfScanner
  scans : Yields size (scan options state.cursor.place family state)
    (true, state.behind options finding lexeme)
  reads : Yields size (family.read (lexeme ++ rest)) (some { finding, length := lexeme.length })

/-- The scanner of the family finds a lexeme at the beginning of the text, or leaves the state as it
is; so does the family that reads ahead. -/
def Tries (options : LexingOptions) (family : Family) (state : LexingState) (size : Nat)
    (text : List Char) : Prop :=
  (Yields size (scan options state.cursor.place family state) (false, state) ∧
      family.read text = .ok none) ∨
    ∃ finding lexeme rest,
      text = lexeme ++ rest ∧ Finds options family state size finding lexeme rest

theorem accept_ok {size : Nat} {after : LexingState} {closed : Except Fault LexingState}
    (done : closed = .ok after) : Yields size (accept closed) (true, after) := by
  rw [done]
  exact .ok size _

end Scanner

end ScriptLexer
