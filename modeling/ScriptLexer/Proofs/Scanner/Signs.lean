import ScriptLexer.Proofs.Grammar.Sign
import ScriptLexer.Proofs.Scanner.Basic

/-!
# Scanning line breaks, words, operators and punctuation

The scanners of the simple families pass what the families read ahead. An operator is cut out of the
text by bytes, and is found to be the same as by characters.
-/
namespace ScriptLexer

open Grammar

namespace Scanner

variable {options : LexingOptions} {state : LexingState} {c : Char} {others : List Char}
  {size : Nat}

/-! ## Line breaks and words -/

theorem tries_newlines (faces : state.cursor.Faces size (c :: others)) :
    Tries options .newlines state size (c :: others) := by
  by_cases lineBreak : c = '\n'
  · subst lineBreak
    obtain ⟨run, rest, rfl, breaks, stops⟩ := exists_run (· == '\n') others
    have all : ∀ c ∈ '\n' :: run, (c == '\n') = true := by simpa using breaks
    have ahead : state.cursor.Faces size ('\n' :: run ++ rest) := faces
    refine .inr ⟨.token .newline, '\n' :: run, rest, rfl, by simp, trivial, ?_, ?_⟩
    · show Yields size (newlines state.cursor.place state) _
      rw [newlines, faces.look_head, ok_bind, if_pos rfl]
      refine (ahead.eatWhile all stops).bind ?_
      exact accept_ok (LexingState.closeToken_behind ahead (by simp))
    · have breaks : ∀ c ∈ '\n' :: run, c = '\n' := fun c member => by simpa using all c member
      have ends : ∀ c ∈ rest.head?, c ≠ '\n' := fun c next => by simpa using stops c next
      rw [Family.read, readNewlines_newlines ⟨by simp, breaks⟩ ends]
      exact .ok _ _
  · refine .inl ⟨?_, ?_⟩
    · show Yields size (newlines state.cursor.place state) _
      rw [newlines, faces.look_head, ok_bind, if_neg lineBreak]
      exact .ok size _
    · simp [Family.read, readNewlines, runLength, lineBreak]

theorem tries_word (faces : state.cursor.Faces size (c :: others)) :
    Tries options .word state size (c :: others) := by
  by_cases start : isWordStart c = true
  · obtain ⟨run, rest, rfl, chars, stops⟩ := exists_run isWordChar others
    have ahead : state.cursor.Faces size (c :: run ++ rest) := faces
    refine .inr ⟨.token (if isReserved (String.ofList (c :: run)) then .keyword else .identifier),
      c :: run, rest, rfl, by simp, trivial, ?_, ?_⟩
    · show Yields size (word state.cursor.place state) _
      rw [word, faces.look_head, ok_bind, if_pos start]
      refine (ahead.eatWhile (isWordChars_cons start chars) stops).bind ?_
      rw [ahead.textSince, ok_bind]
      refine accept_ok (LexingState.closeToken_behind ahead ?_)
      split <;> simp
    · rw [Family.read, readWord_word ⟨c, run, start, chars, rfl⟩ stops]
      exact .ok _ _
  · refine .inl ⟨?_, ?_⟩
    · show Yields size (word state.cursor.place state) _
      rw [word, faces.look_head, ok_bind, if_neg start]
      exact .ok size _
    · simp [Family.read, readWord, start]

/-! ## Punctuation -/

theorem tries_punctuation (faces : state.cursor.Faces size (c :: others)) :
    Tries options .punctuation state size (c :: others) := by
  by_cases sign : c ∈ ScriptLexer.punctuation
  · have ahead : state.cursor.Faces size ([c] ++ others) := faces
    refine .inr ⟨.token .punctuation, [c], others, rfl, by simp, trivial, ?_, ?_⟩
    · show Yields size (punctuation state.cursor.place state) _
      rw [punctuation, faces.look_head, ok_bind, if_pos sign]
      refine faces.advance.bind ?_
      exact accept_ok (LexingState.closeToken_behind ahead (by simp))
    · simp only [Family.read, List.singleton_append, readPunctuation, List.contains_iff_mem,
        sign, if_true]
      exact .ok _ _
  · refine .inl ⟨?_, ?_⟩
    · show Yields size (punctuation state.cursor.place state) _
      rw [punctuation, faces.look_head, ok_bind, if_neg sign]
      exact .ok size _
    · simp [Family.read, readPunctuation, sign]

/-! ## Operators -/

/-- The first two characters, cut off at a byte. -/
private theorem cutTwo (first : Char) (rest : List Char) :
    Text.cutBefore (Text.offsetOf 2 (first :: rest)) (first :: rest) =
      .ok (first :: rest.take 1) := by
  rw [Text.cutBefore_offsetOf, List.take_succ_cons]

theorem matchOperator_long {first second : Char} (long : (first, second) ∈ longOperators)
    (rest : List Char) : matchOperator (first :: second :: rest) = .ok (some [first, second]) := by
  have narrow : ∀ signs ∈ longOperators, Text.byteLength [signs.1, signs.2] = 2 := by decide
  have found : Text.byteLength [first, second] = 2 ∧
      ∃ signs ∈ longOperators, [first, second] = [signs.1, signs.2] := ⟨narrow _ long, _, long, rfl⟩
  rw [matchOperator, cutTwo, ok_bind]
  exact if_pos found

theorem matchOperator_short {first : Char} {rest : List Char}
    (single : ∀ second ∈ rest.head?, (first, second) ∉ longOperators) :
    matchOperator (first :: rest) =
      .ok (if first ∈ shortOperators then some [first] else none) := by
  have noLong : ¬ (Text.byteLength (first :: rest.take 1) = 2 ∧
      ∃ signs ∈ longOperators, first :: rest.take 1 = [signs.1, signs.2]) := by
    rintro ⟨_, signs, long, same⟩
    cases rest with
    | nil => simp at same
    | cons second others =>
      obtain ⟨rfl, rfl⟩ : first = signs.1 ∧ second = signs.2 := by simpa using same
      exact single _ rfl long
  have width : first.utf8Size = Text.byteLength [first] := by simp
  have one : Text.cutBefore first.utf8Size (first :: rest) = .ok [first] := by
    rw [width]
    exact Text.cutBefore_append [first] rest
  rw [matchOperator, cutTwo, ok_bind, if_neg noLong, one]
  by_cases short : first ∈ shortOperators
  · rw [if_pos short, if_pos short]
    rfl
  · rw [if_neg short, if_neg short]
    rfl

/-- The scanner of operators passes the operator that stands ahead, and reports it where it
clashes. -/
private theorem operator_yields {found rest : List Char}
    (faces : state.cursor.Faces size (found ++ rest))
    (matched : matchOperator (found ++ rest) = .ok (some found)) :
    Yields size (operator state.cursor.place state)
      (true, state.behind options (.token .operator) found) := by
  unfold operator
  rw [faces.remaining, ok_bind, matched, ok_bind]
  refine faces.walk.bind ?_
  have same : (state.moved (state.cursor.past found)).previousOperator = state.previousOperator :=
    rfl
  unfold LexingState.behind LexingState.record
  rw [same]
  cases state.previousOperator.filter fun previous =>
      clashes previous.lexeme (String.ofList found) with
  | none => exact accept_ok (LexingState.closeToken_past faces rfl .operator)
  | some previous =>
    dsimp only
    rw [LexingState.closeError_past faces rfl, ok_bind]
    exact accept_ok (LexingState.closeToken_past faces rfl .operator)

theorem tries_operator (faces : state.cursor.Faces size (c :: others)) :
    Tries options .operator state size (c :: others) := by
  by_cases long : ∃ d ∈ others.head?, (c, d) ∈ longOperators
  · obtain ⟨d, head, isLong⟩ := long
    obtain ⟨rest, rfl⟩ := List.head?_eq_some_iff.mp head
    refine .inr ⟨.token .operator, [c, d], rest, rfl, by simp, trivial, ?_, ?_⟩
    · exact @operator_yields options state size [c, d] rest faces (matchOperator_long isLong rest)
    · exact .inl (congrArg Except.ok (readOperator_long isLong rest))
  · have single : ∀ d ∈ others.head?, (c, d) ∉ longOperators := fun d head isLong =>
      long ⟨d, head, isLong⟩
    have matched := matchOperator_short single
    have read := readOperator_short single
    by_cases short : c ∈ shortOperators
    · rw [if_pos short] at matched read
      refine .inr ⟨.token .operator, [c], others, rfl, by simp, trivial, ?_, ?_⟩
      · exact @operator_yields options state size [c] others faces matched
      · exact .inl (congrArg Except.ok read)
    · rw [if_neg short] at matched read
      refine .inl ⟨?_, congrArg Except.ok read⟩
      show Yields size (operator state.cursor.place state) _
      unfold operator
      rw [faces.remaining, ok_bind, matched, ok_bind]
      exact .ok size _

end Scanner

end ScriptLexer
