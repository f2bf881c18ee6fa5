import Mathlib.Data.List.Induction
import Mathlib.Data.List.TakeWhile
import ScriptLexer.Source

/-!
# Lines of a text

Two ways to say on which line a text ends: by its last line break, and by the lines found when the
text is split. The first looks back from the end, the second reads from the front, and both find the
same line.
-/
namespace ScriptLexer.Text

/-- The characters behind the last line break. -/
def lastLine (text : List Char) : List Char := (text.reverse.takeWhile (· != '\n')).reverse

theorem lastLine_append_break (text : List Char) : lastLine (text ++ ['\n']) = [] := by
  simp [lastLine]

theorem lastLine_append {c : Char} (noBreak : c ≠ '\n') (text : List Char) :
    lastLine (text ++ [c]) = lastLine text ++ [c] := by
  simp [lastLine, noBreak]

/-- Lines with the line break behind each. -/
def endedLines (lines : List (List Char)) : List Char := lines.flatMap fun line => line ++ ['\n']

theorem break_notMem_lastLine (text : List Char) : '\n' ∉ lastLine text := by
  intro member
  have inside := List.mem_takeWhile_imp (List.mem_reverse.mp member)
  simp at inside

theorem break_notMem_toDigits (number : Nat) : '\n' ∉ Nat.toDigits 10 number := by
  intro member
  have digit := Nat.isDigit_of_mem_toDigits (by decide) (by decide) member
  simp at digit

/-! ## Splitting from the front -/

theorem splitLines_break (rest : List Char) :
    splitLines ('\n' :: rest) = [] :: splitLines rest := by
  simp [splitLines]

theorem splitLines_plain {c : Char} {rest line : List Char} {others : List (List Char)}
    (noBreak : c ≠ '\n') (split : splitLines rest = line :: others) :
    splitLines (c :: rest) = (c :: line) :: others := by
  unfold splitLines at split ⊢
  rw [List.foldr_cons, split]
  simp

/-- The first line is followed by a line break exactly where there are others. -/
theorem exists_firstLine (text : List Char) : ∃ first others, splitLines text = first :: others ∧
    (others = [] ∧ text = first ∨ others ≠ [] ∧ ∃ rest, text = first ++ '\n' :: rest) := by
  induction text with
  | nil => exact ⟨[], [], rfl, .inl ⟨rfl, rfl⟩⟩
  | cons c rest ih =>
    obtain ⟨first, others, split, ended⟩ := ih
    by_cases isBreak : c = '\n'
    · subst isBreak
      refine ⟨[], splitLines rest, splitLines_break rest, .inr ⟨?_, rest, rfl⟩⟩
      rw [split]
      simp
    · refine ⟨c :: first, others, splitLines_plain isBreak split, ?_⟩
      rcases ended with ⟨noOthers, rfl⟩ | ⟨goesOn, more, rfl⟩
      · exact .inl ⟨noOthers, rfl⟩
      · exact .inr ⟨goesOn, more, rfl⟩

/-- The first of the lines goes up to the first line break. -/
theorem splitLines_firstLine (text : List Char) :
    ∃ others, splitLines text = text.takeWhile (· != '\n') :: others := by
  induction text with
  | nil => exact ⟨[], rfl⟩
  | cons c rest ih =>
    obtain ⟨others, split⟩ := ih
    by_cases isBreak : c = '\n'
    · subst isBreak
      exact ⟨splitLines rest, splitLines_break rest⟩
    · exact ⟨others, by rw [splitLines_plain isBreak split]; simp [isBreak]⟩

theorem splitLines_line {line : List Char} (one : '\n' ∉ line) : splitLines line = [line] := by
  induction line with
  | nil => rfl
  | cons c rest ih =>
    rw [List.mem_cons, not_or] at one
    exact splitLines_plain (Ne.symm one.1) (ih one.2)

theorem splitLines_append_break {line : List Char} (one : '\n' ∉ line) (rest : List Char) :
    splitLines (line ++ '\n' :: rest) = line :: splitLines rest := by
  induction line with
  | nil => exact splitLines_break rest
  | cons c more ih =>
    rw [List.mem_cons, not_or] at one
    exact splitLines_plain (Ne.symm one.1) (ih one.2)

/-- A text that goes on adds to its last line first; the lines before that one are over. -/
theorem splitLines_append (front : List Char) : ∃ closed : List (List Char),
    closed.length = front.count '\n' ∧ front = endedLines closed ++ lastLine front ∧
      ∀ {back first : List Char} {others : List (List Char)}, splitLines back = first :: others →
        splitLines (front ++ back) = closed ++ (lastLine front ++ first) :: others := by
  induction front using List.reverseRecOn with
  | nil => exact ⟨[], rfl, rfl, fun split => split⟩
  | append_singleton front c ih =>
    obtain ⟨closed, count, whole, goesOn⟩ := ih
    by_cases isBreak : c = '\n'
    · subst isBreak
      refine ⟨closed ++ [lastLine front], ?_, ?_, ?_⟩
      · simp [count]
      · rw [lastLine_append_break]
        conv => lhs; rw [whole]
        simp [endedLines]
      · intro back first others split
        have next := goesOn (splitLines_break back)
        rw [split] at next
        rw [lastLine_append_break]
        simpa using next
    · refine ⟨closed, ?_, ?_, ?_⟩
      · simp [count, isBreak]
      · rw [lastLine_append isBreak, ← List.append_assoc, ← whole]
      · intro back first others split
        have next := goesOn (splitLines_plain isBreak split)
        rw [lastLine_append isBreak]
        simpa using next

/-! ## Carriage returns at the end of a line -/

/-- What is cut off a line are its last carriage returns. -/
theorem exists_returns (line : List Char) :
    ∃ returns, line = trimReturns line ++ returns ∧ ∀ c ∈ returns, c = '\r' := by
  refine ⟨(line.reverse.takeWhile (· == '\r')).reverse, ?_, ?_⟩
  · rw [trimReturns, ← List.reverse_append, List.takeWhile_append_dropWhile, List.reverse_reverse]
  · intro c member
    simpa using List.mem_takeWhile_imp (List.mem_reverse.mp member)

theorem mem_of_mem_trimReturns {c : Char} {line : List Char} (member : c ∈ trimReturns line) :
    c ∈ line := by
  obtain ⟨returns, split, _⟩ := exists_returns line
  rw [split]
  exact List.mem_append_left returns member

theorem getLast?_trimReturns (line : List Char) : (trimReturns line).getLast? ≠ some '\r' := by
  intro last
  rw [trimReturns, List.getLast?_reverse] at last
  have failed := List.head?_dropWhile_not (· == '\r') line.reverse
  rw [last] at failed
  simp at failed

theorem trimReturns_returns {returns : List Char} (all : ∀ c ∈ returns, c = '\r') :
    trimReturns returns = [] := by
  rw [trimReturns, List.reverse_eq_nil_iff, List.dropWhile_eq_nil_iff]
  intro c member
  simpa using all c (List.mem_reverse.mp member)

/-- Carriage returns are cut off the end alone. -/
theorem trimReturns_append {front : List Char} (kept : front.getLast? ≠ some '\r')
    (back : List Char) : trimReturns (front ++ back) = front ++ trimReturns back := by
  have whole : front.reverse.dropWhile (· == '\r') = front.reverse := by
    cases reversed : front.reverse with
    | nil => rfl
    | cons c others =>
      have last : front.getLast? = some c := by rw [← List.head?_reverse, reversed, List.head?_cons]
      have other : ¬ (c == '\r') = true := by
        rintro same
        rw [eq_of_beq same] at last
        exact kept last
      exact List.dropWhile_cons_of_neg other
  rw [trimReturns, trimReturns, List.reverse_append, List.dropWhile_append, whole]
  split
  case isTrue none =>
    rw [List.isEmpty_iff.mp none, List.reverse_reverse, List.reverse_nil, List.append_nil]
  case isFalse => rw [List.reverse_append, List.reverse_reverse]

end ScriptLexer.Text
