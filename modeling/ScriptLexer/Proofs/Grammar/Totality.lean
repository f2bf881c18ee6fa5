import ScriptLexer.Proofs.Grammar.Dispatch

/-!
# Every text begins with a lexeme

Unless it begins with a blank, a text begins with exactly one lexeme of the grammar, sound or
spoiled, and the lexeme is never empty and never begins with a blank itself.
-/
namespace ScriptLexer

open Grammar

theorem exists_newlines (rest : List Char) :
    ∃ finding lexeme tail, '\n' :: rest = lexeme ++ tail ∧ Stands finding lexeme tail := by
  obtain ⟨run, tail, rfl, breaks, stops⟩ := exists_run (· == '\n') rest
  refine ⟨.token .newline, '\n' :: run, tail, rfl, ⟨by simp, ?_⟩, ?_⟩
  · intro c member
    rcases List.mem_cons.mp member with rfl | later
    · rfl
    · simpa using breaks c later
  · intro c next
    have other : c ≠ '\n' := by simpa using stops c next
    exact other

theorem exists_word {c : Char} (start : isWordStart c = true) (rest : List Char) :
    ∃ finding lexeme tail, c :: rest = lexeme ++ tail ∧ Stands finding lexeme tail := by
  obtain ⟨run, tail, rfl, chars, stops⟩ := exists_run isWordChar rest
  by_cases reserved : String.ofList (c :: run) ∈ reservedWords
  · exact ⟨.token .keyword, c :: run, tail, rfl, reserved, stops⟩
  · exact ⟨.token .identifier, c :: run, tail, rfl, ⟨⟨c, run, start, chars, rfl⟩, reserved⟩, stops⟩

/-- Signs that begin neither a comment nor a number are operators, punctuation or nothing at all. -/
theorem exists_sign {c : Char} {rest : List Char} (noBlank : isBlank c = false) (noBreak : c ≠ '\n')
    (noQuote : isQuote c = false) (noNumber : isNumberChar c = false)
    (noWord : isWordStart c = false) (noMinus : c = '-' → Stops isNumberChar rest.head?)
    (noComment : ∀ body, c :: rest ≠ opening ++ body) :
    ∃ finding lexeme tail, c :: rest = lexeme ++ tail ∧ Stands finding lexeme tail := by
  by_cases long : ∃ d ∈ rest.head?, (c, d) ∈ longOperators
  · obtain ⟨d, next, member⟩ := long
    obtain ⟨tail, rfl⟩ := List.head?_eq_some_iff.mp next
    refine ⟨.token .operator, [c, d], tail, rfl, .inl ⟨c, d, member, rfl⟩, ?_⟩
    intro e following
    refine ⟨by simp, by simp, ?_⟩
    rintro same rfl
    obtain ⟨others, rfl⟩ := List.head?_eq_some_iff.mp following
    obtain ⟨rfl, rfl⟩ : c = '<' ∧ d = '<' := by simpa using same
    exact noComment others rfl
  · have single : ∀ d ∈ rest.head?, (c, d) ∉ longOperators := fun d next member =>
      long ⟨d, next, member⟩
    by_cases short : c ∈ shortOperators
    · refine ⟨.token .operator, [c], rest, rfl, .inr ⟨c, short, rfl⟩, ?_⟩
      intro d next
      refine ⟨?_, ?_, by simp⟩
      · intro a same
        obtain rfl : c = a := by simpa using same
        exact single d next
      · intro same
        exact noMinus (by simpa using same) d next
    · by_cases sign : c ∈ ScriptLexer.punctuation
      · have noPoint : c ≠ '.' := (isNumberChar_eq_false.mp noNumber).2
        have listed : c ∈ ['(', ')', '[', ']', '{', '}', ','] := by
          simpa [ScriptLexer.punctuation, noPoint] using sign
        exact ⟨.token .punctuation, [c], rest, rfl, ⟨c, listed, rfl⟩, fun _ _ => trivial⟩
      · exact ⟨.error (.unrecognized c), [c], rest, rfl,
          ⟨⟨noBlank, noBreak, noQuote, noNumber, noWord, short, sign⟩, rfl⟩, single⟩

/-- A text that does not begin with a blank begins with a lexeme. -/
theorem exists_lexeme {c : Char} (noBlank : isBlank c = false) (rest : List Char) :
    ∃ finding lexeme tail, c :: rest = lexeme ++ tail ∧ Stands finding lexeme tail := by
  by_cases lineBreak : c = '\n'
  · subst lineBreak
    exact exists_newlines rest
  by_cases comment : ∃ body, c :: rest = opening ++ body
  · obtain ⟨body, same⟩ := comment
    rw [same]
    exact exists_comment body
  by_cases quote : isQuote c = true
  · exact exists_quoted quote rest
  by_cases number : isNumberChar c = true
  · obtain ⟨finding, lexeme, tail, same, stands, _⟩ := @exists_number [] (c :: rest) (.inl rfl)
      ⟨c, rfl, number⟩
    exact ⟨finding, lexeme, tail, same, stands⟩
  by_cases minus : c = '-' ∧ ∃ d ∈ rest.head?, isNumberChar d = true
  · obtain ⟨rfl, begins⟩ := minus
    obtain ⟨finding, lexeme, tail, same, stands, _⟩ := @exists_number ['-'] rest (.inr rfl) begins
    exact ⟨finding, lexeme, tail, same, stands⟩
  by_cases word : isWordStart c = true
  · exact exists_word word rest
  · refine exists_sign noBlank lineBreak (by simpa using quote) (by simpa using number)
      (by simpa using word) ?_ (fun body same => comment ⟨body, same⟩)
    rintro rfl d next
    by_contra digit
    exact minus ⟨rfl, d, next, by simpa using digit⟩

/-! ## How lexemes begin -/

namespace Grammar

/-- The text begins with a character that is no blank. -/
def Begins (text : List Char) : Prop := ∃ c ∈ text.head?, isBlank c = false

theorem Begins.append {text : List Char} (begins : Begins text) (rest : List Char) :
    Begins (text ++ rest) := by
  obtain ⟨c, head, noBlank⟩ := begins
  obtain ⟨others, rfl⟩ := List.head?_eq_some_iff.mp head
  exact ⟨c, rfl, noBlank⟩

theorem Begins.ne_nil {text : List Char} (begins : Begins text) : text ≠ [] := by
  rintro rfl
  obtain ⟨c, head, _⟩ := begins
  cases head

/-- No blank is of a class that leaves out the three blanks. -/
theorem begins_cons {accepts : Char → Bool} {c : Char} (accepted : accepts c = true)
    (leavesOut : ∀ blank ∈ [' ', '\t', '\r'], accepts blank = false) (rest : List Char) :
    Begins (c :: rest) := by
  refine ⟨c, rfl, ?_⟩
  by_contra blank
  rw [Bool.not_eq_false] at blank
  have listed : c ∈ [' ', '\t', '\r'] := by simpa [isBlank, or_assoc] using blank
  rw [leavesOut c listed] at accepted
  cases accepted

theorem begins_number {sign text : List Char} (isMinus : IsMinus sign)
    (begins : ∃ c ∈ text.head?, isNumberChar c = true) : Begins (sign ++ text) := by
  rcases isMinus with rfl | rfl
  · obtain ⟨c, head, number⟩ := begins
    obtain ⟨others, rfl⟩ := List.head?_eq_some_iff.mp head
    exact begins_cons number (forall_mem_of_all (by decide)) others
  · exact ⟨'-', rfl, by decide⟩

theorem IsInteger.begins {text : List Char} (isInteger : IsInteger text) : Begins text := by
  obtain ⟨sign, digits, isMinus, allDigits, nonempty, rfl⟩ := isInteger
  have digits := (IsMantissa.whole allDigits nonempty).begins []
  rw [List.append_nil] at digits
  exact begins_number isMinus digits

theorem IsDouble.begins {text : List Char} (isDouble : IsDouble text) : Begins text := by
  cases isDouble with
  | point => exact ⟨'.', rfl, by decide⟩
  | fraction isMinus wholeDigits allDigits _ =>
    have mantissa := (IsMantissa.pointed wholeDigits allDigits).begins []
    rw [List.append_nil] at mantissa
    exact begins_number isMinus mantissa
  | exponent isMinus isMantissa => exact begins_number isMinus (isMantissa.begins _)

theorem IsMalformedNumber.begins {flaw : NumberFlaw} {text : List Char}
    (malformed : IsMalformedNumber flaw text) : Begins text := by
  cases malformed with
  | @secondPoint sign whole fraction more isMinus wholeDigits fractionDigits _ =>
    have mantissa := (IsMantissa.pointed wholeDigits fractionDigits).begins ('.' :: more)
    rw [List.append_assoc, List.cons_append] at mantissa
    exact begins_number isMinus mantissa
  | missingExponent isMinus isMantissa => exact begins_number isMinus (isMantissa.begins _)
  | @trailingPoint sign whole isMinus wholeDigits _ =>
    have noDigits : IsDigits [] := by simp [IsDigits]
    have mantissa := (IsMantissa.pointed wholeDigits noDigits).begins []
    rw [List.append_nil] at mantissa
    exact begins_number isMinus mantissa

theorem IsWord.begins {text : List Char} (isWord : IsWord text) : Begins text := by
  obtain ⟨c, word, start, _, rfl⟩ := isWord
  exact begins_cons start (forall_mem_of_all (by decide)) word

theorem IsOperator.begins {text : List Char} (isOperator : IsOperator text) : Begins text := by
  obtain ⟨a, b, long, rfl⟩ | ⟨c, short, rfl⟩ := isOperator
  · have noBlank : ∀ signs ∈ longOperators, isBlank signs.1 = false := by decide
    exact ⟨a, rfl, noBlank _ long⟩
  · have noBlank : ∀ sign ∈ shortOperators, isBlank sign = false := forall_mem_of_all (by decide)
    exact ⟨c, rfl, noBlank c short⟩

theorem IsPunctuation.begins {text : List Char} (isPunctuation : IsPunctuation text) :
    Begins text := by
  obtain ⟨c, listed, rfl⟩ := isPunctuation
  have noBlank : ∀ sign ∈ ['(', ')', '[', ']', '{', '}', ','], isBlank sign = false :=
    forall_mem_of_all (by decide)
  exact ⟨c, rfl, noBlank c listed⟩

theorem begins_quote {quote : Char} (quotes : isQuote quote = true) (rest : List Char) :
    Begins (quote :: rest) :=
  begins_cons quotes (forall_mem_of_all (by decide)) rest

theorem begins_opening (body : List Char) : Begins (opening ++ body) := ⟨'<', rfl, by decide⟩

end Grammar

/-- No lexeme is empty, and none begins with a blank. -/
theorem Finding.Form.begins {finding : Finding} {lexeme : List Char} (form : finding.Form lexeme) :
    Begins lexeme := by
  cases finding with
  | token kind =>
    cases kind with
    | newline =>
      obtain ⟨c, others, rfl⟩ := List.exists_cons_of_ne_nil form.1
      obtain rfl : c = '\n' := form.2 c (by simp)
      exact ⟨'\n', rfl, by decide⟩
    | lineComment =>
      obtain ⟨body, rfl, _⟩ := form
      exact begins_opening body
    | blockComment =>
      obtain ⟨body, rfl, _⟩ := form
      exact begins_opening body
    | string =>
      obtain ⟨quote, body, quotes, _, rfl⟩ := form
      exact begins_quote quotes _
    | integer => exact IsInteger.begins form
    | double => exact IsDouble.begins form
    | keyword => exact (isWord_of_isKeyword form).begins
    | identifier => exact form.1.begins
    | operator => exact IsOperator.begins form
    | punctuation => exact IsPunctuation.begins form
  | openComment =>
    obtain ⟨body, rfl, _⟩ := form
    exact begins_opening body
  | error cause =>
    cases cause with
    | unrecognized c =>
      obtain ⟨nothing, rfl⟩ := form
      exact ⟨c, rfl, nothing.noBlank⟩
    | openString quote =>
      obtain ⟨quotes, body, _, rfl | rfl⟩ := form
      · exact begins_quote quotes _
      · exact begins_quote quotes _
    | number flaw => exact IsMalformedNumber.begins form
    | illegalIdentifier =>
      obtain ⟨number, c, word, isInteger | isDouble, _, _, _, rfl⟩ := form
      · exact isInteger.begins.append _
      · exact isDouble.begins.append _
    | operatorSequence previous => exact absurd form id
    | openComment => exact absurd form id

/-- A text begins with one lexeme only, and it is found to be one thing only. -/
theorem Stands.unique {finding other : Finding} {lexeme rest otherLexeme otherRest : List Char}
    (stands : Stands finding lexeme rest) (also : Stands other otherLexeme otherRest)
    (same : lexeme ++ rest = otherLexeme ++ otherRest)
    (short : (lexeme ++ rest).length < counterLimit) : finding = other ∧ lexeme = otherLexeme := by
  obtain ⟨c, others, text⟩ : ∃ c others, c :: others = lexeme ++ rest := by
    obtain ⟨c, more, rfl⟩ := List.exists_cons_of_ne_nil stands.form.begins.ne_nil
    exact ⟨c, more ++ rest, rfl⟩
  have first := (stands.readLexeme text).eq_ok (by rw [List.length_append] at short; omega)
  have second := (also.readLexeme (text.trans same)).eq_ok
    (by rw [same, List.length_append] at short; omega)
  rw [first, Except.ok.injEq, Reading.mk.injEq] at second
  exact ⟨second.1, List.append_inj_left same second.2⟩

end ScriptLexer
