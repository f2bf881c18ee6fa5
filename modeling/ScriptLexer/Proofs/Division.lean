import ScriptLexer.Proofs.Grammar.Totality

/-!
# Dividing a text

A text divides into lexemes with blanks before each, and blanks behind the last. What each piece is
depends on its own characters and on the one right behind it, so a division can be changed in one
place without a look at the others.
-/
namespace ScriptLexer

/-- A lexeme with the blanks before it. -/
structure Piece where
  gap : List Char
  lexeme : List Char
  finding : Finding

def Piece.text (piece : Piece) : List Char := piece.gap ++ piece.lexeme

/-- The text that the pieces make up, with what stands behind the last. -/
def textOf (pieces : List Piece) (tail : List Char) : List Char := pieces.flatMap Piece.text ++ tail

/-- Gaps and tail are blank, and every piece is found to be what it says before what follows it. -/
def Divides : List Piece → List Char → Prop
  | [], tail => ∀ c ∈ tail, isBlank c = true
  | piece :: others, tail =>
    (∀ c ∈ piece.gap, isBlank c = true) ∧
      Stands piece.finding piece.lexeme (textOf others tail) ∧ Divides others tail

@[simp] theorem textOf_nil (tail : List Char) : textOf [] tail = tail := rfl

theorem textOf_cons (piece : Piece) (others : List Piece) (tail : List Char) :
    textOf (piece :: others) tail = piece.gap ++ (piece.lexeme ++ textOf others tail) := by
  simp [textOf, Piece.text]

theorem textOf_append (before after : List Piece) (tail : List Char) :
    textOf (before ++ after) tail = textOf before (textOf after tail) := by
  simp [textOf]

theorem textOf_tail (pieces : List Piece) (tail more : List Char) :
    textOf pieces (tail ++ more) = textOf pieces tail ++ more := by
  simp [textOf]

theorem isBlank_false_of_begins {text : List Char} (begins : Grammar.Begins text) :
    Stops isBlank text.head? := by
  obtain ⟨c, head, noBlank⟩ := begins
  rw [Option.mem_def.mp head]
  exact Stops.some_iff.mpr noBlank

theorem Divides.length_le {pieces : List Piece} {tail : List Char} (divides : Divides pieces tail) :
    pieces.length ≤ (textOf pieces tail).length := by
  induction pieces with
  | nil => simp
  | cons piece others ih =>
    obtain ⟨_, stands, rest⟩ := divides
    have shorter := ih rest
    have positive := List.length_pos_iff.mpr stands.form.begins.ne_nil
    rw [textOf_cons]
    simp only [List.length_append, List.length_cons]
    omega

/-- Only an empty text has no pieces to divide into and nothing behind them. -/
theorem Divides.eq_nil_of_textOf {pieces : List Piece} {tail : List Char}
    (divides : Divides pieces tail) (empty : textOf pieces tail = []) : pieces = [] := by
  have fewer := divides.length_le
  rw [empty] at fewer
  exact List.eq_nil_of_length_eq_zero (Nat.le_zero.mp fewer)

theorem Divides.blank {pieces : List Piece} {tail : List Char} (divides : Divides pieces tail) :
    ∀ gap ∈ pieces.map Piece.gap ++ [tail], ∀ c ∈ gap, isBlank c = true := by
  induction pieces with
  | nil =>
    intro gap member
    obtain rfl := List.mem_singleton.mp member
    exact divides
  | cons piece others ih =>
    obtain ⟨blank, _, rest⟩ := divides
    intro gap member
    rcases List.mem_cons.mp member with rfl | later
    · exact blank
    · exact ih rest gap later

theorem Divides.form {pieces : List Piece} {tail : List Char} (divides : Divides pieces tail) :
    ∀ piece ∈ pieces, piece.finding.Form piece.lexeme := by
  induction pieces with
  | nil => simp
  | cons piece others ih =>
    obtain ⟨_, stands, rest⟩ := divides
    intro other member
    rcases List.mem_cons.mp member with rfl | later
    · exact stands.form
    · exact ih rest other later

theorem Divides.of_append {before after : List Piece} {tail : List Char}
    (divides : Divides (before ++ after) tail) : Divides after tail := by
  induction before with
  | nil => exact divides
  | cons piece others ih => exact ih divides.2.2

/-- Every text has a division. -/
theorem exists_division (text : List Char) :
    ∃ pieces tail, textOf pieces tail = text ∧ Divides pieces tail := by
  obtain ⟨size, bound⟩ : ∃ size, text.length ≤ size := ⟨text.length, Nat.le_refl _⟩
  -- The lexeme found next is never empty, so what is left to divide is shorter.
  induction size generalizing text with
  | zero =>
    obtain rfl := List.eq_nil_of_length_eq_zero (Nat.le_zero.mp bound)
    exact ⟨[], [], rfl, by simp [Divides]⟩
  | succ size ih =>
    obtain ⟨gap, rest, rfl, blank, stops⟩ := exists_run isBlank text
    cases rest with
    | nil => exact ⟨[], gap, by simp, blank⟩
    | cons c rest =>
      obtain ⟨finding, lexeme, after, same, stands⟩ := exists_lexeme (Stops.some_iff.mp stops) rest
      have positive := List.length_pos_iff.mpr stands.form.begins.ne_nil
      have shorter : after.length ≤ size := by
        have lengths := congrArg List.length same
        simp only [List.length_append, List.length_cons] at lengths bound
        omega
      obtain ⟨pieces, tail, rfl, divides⟩ := ih after shorter
      exact ⟨{ gap, lexeme, finding } :: pieces, tail, by rw [textOf_cons, same],
        blank, stands, divides⟩

end ScriptLexer
