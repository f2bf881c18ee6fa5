import ScriptLexer.Proofs.Grammar.Number.Parts

/-!
# Reading line breaks, words, operators and punctuation

The readers of the simple families find exactly the lexemes of the grammar.
-/
namespace ScriptLexer

open Grammar

variable {lexeme rest : List Char}

theorem readNewlines_newlines (newlines : IsNewlines lexeme) (ends : ∀ c ∈ rest.head?, c ≠ '\n') :
    readNewlines (lexeme ++ rest) =
      some { finding := .token .newline, length := lexeme.length } := by
  obtain ⟨nonempty, breaks⟩ := newlines
  have taken : runLength (· == '\n') (lexeme ++ rest) = lexeme.length := by
    apply Stops.runLength_append
    · intro c member
      simpa using breaks c member
    · intro c next
      simpa using ends c next
  unfold readNewlines
  rw [taken]
  split
  case h_1 nothing => exact absurd (List.eq_nil_of_length_eq_zero nothing) nonempty
  case h_2 => rfl

/-! ## Words -/

/-- Whether the text is a word. -/
def spellsWord : List Char → Bool
  | [] => false
  | c :: rest => isWordStart c && rest.all isWordChar

theorem isWord_of_spellsWord (spelled : spellsWord lexeme = true) : IsWord lexeme := by
  cases lexeme with
  | nil => cases spelled
  | cons c word =>
    rw [spellsWord, Bool.and_eq_true, List.all_eq_true] at spelled
    exact ⟨c, word, spelled.1, spelled.2, rfl⟩

theorem isWord_of_isKeyword (keyword : IsKeyword lexeme) : IsWord lexeme := by
  have spelled : ∀ word ∈ reservedWords, spellsWord word.toList = true := by decide
  have own := spelled _ keyword
  rw [String.toList_ofList] at own
  exact isWord_of_spellsWord own

theorem readWord_word (isWord : IsWord lexeme) (ends : Stops isWordChar rest.head?) :
    readWord (lexeme ++ rest) = some {
      finding := .token (if isReserved (String.ofList lexeme) then .keyword else .identifier)
      length := lexeme.length } := by
  obtain ⟨c, word, start, chars, rfl⟩ := isWord
  have taken : (c :: (word ++ rest)).takeWhile isWordChar = c :: word :=
    Stops.takeWhile_append (isWordChars_cons start chars) ends
  simp only [List.cons_append, readWord, start, if_true, taken]

theorem readWord_keyword (keyword : IsKeyword lexeme) (ends : Stops isWordChar rest.head?) :
    readWord (lexeme ++ rest) = some { finding := .token .keyword, length := lexeme.length } := by
  have reserved : isReserved (String.ofList lexeme) = true := List.contains_iff_mem.mpr keyword
  rw [readWord_word (isWord_of_isKeyword keyword) ends, if_pos reserved]

theorem readWord_identifier (identifier : IsIdentifier lexeme)
    (ends : Stops isWordChar rest.head?) :
    readWord (lexeme ++ rest) =
      some { finding := .token .identifier, length := lexeme.length } := by
  have free : ¬ isReserved (String.ofList lexeme) = true := fun reserved =>
    identifier.2 (List.contains_iff_mem.mp reserved)
  rw [readWord_word identifier.1 ends, if_neg free]

/-! ## Operators and punctuation -/

theorem readOperator_operator (stands : Stands (.token .operator) lexeme rest) :
    readOperator (lexeme ++ rest) =
      some { finding := .token .operator, length := lexeme.length } := by
  obtain ⟨⟨a, b, long, rfl⟩ | ⟨c, short, rfl⟩, ends⟩ := stands
  · exact readOperator_long long rest
  · rw [List.singleton_append, readOperator_short (fun second next => (ends second next).1 c rfl),
      if_pos short]
    rfl

theorem readPunctuation_punctuation (isPunctuation : IsPunctuation lexeme) :
    readPunctuation (lexeme ++ rest) =
      some { finding := .token .punctuation, length := lexeme.length } := by
  obtain ⟨c, member, rfl⟩ := isPunctuation
  have listed : c ∈ punctuation := by
    have wider : ∀ sign ∈ ['(', ')', '[', ']', '{', '}', ','], sign ∈ punctuation :=
      forall_mem_of_all (by decide)
    exact wider c member
  simp [readPunctuation, listed]

end ScriptLexer
