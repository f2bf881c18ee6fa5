import ScriptLexer.Proofs.Grammar.Number.Reading

/-!
# Whatever begins like a number is one

A text that begins with a digit or a point, or with a minus sign before one of them, begins with a
number of the grammar: the cases below follow the text and not the reader.
-/
namespace ScriptLexer

open Grammar

/-- What a lexeme that begins like a number may be found to be. -/
def Finding.IsNumeral : Finding → Prop
  | .token .integer => True
  | .token .double => True
  | .error (.number _) => True
  | .error .illegalIdentifier => True
  | _ => False

/-- Behind a sound number stands the word that spoils it, or something that leaves it alone. -/
private theorem exists_of_number {kind : Token.Kind} {number rest : List Char}
    (isNumber : kind = .integer ∧ IsInteger number ∨ kind = .double ∧ IsDouble number)
    (stops : StopsNumber number rest.head?) :
    ∃ finding lexeme tail, number ++ rest = lexeme ++ tail ∧ Stands finding lexeme tail ∧
      finding.IsNumeral := by
  by_cases word : ∃ c ∈ rest.head?, isWordStart c = true
  · obtain ⟨c, next, start⟩ := word
    obtain ⟨others, rfl⟩ := List.head?_eq_some_iff.mp next
    obtain ⟨run, tail, rfl, chars, ends⟩ := exists_run isWordChar others
    have either : IsInteger number ∨ IsDouble number := by
      rcases isNumber with ⟨_, isInteger⟩ | ⟨_, isDouble⟩
      · exact .inl isInteger
      · exact .inr isDouble
    exact ⟨.error .illegalIdentifier, number ++ c :: run, tail, by simp,
      ⟨⟨number, c, run, either, start, chars, fun mark => (stops c rfl).2 (.inr mark), rfl⟩, ends⟩,
      trivial⟩
  · have noWord : ∀ c ∈ rest.head?, isWordStart c = false := by
      intro c next
      by_contra start
      exact word ⟨c, next, by simpa using start⟩
    refine ⟨.token kind, number, rest, rfl, ?_⟩
    rcases isNumber with ⟨rfl, isInteger⟩ | ⟨rfl, isDouble⟩
    · have noNumber := stops.stopsNumberChar (any_mark_integer isInteger)
      exact ⟨⟨isInteger, fun c next => ⟨noNumber c next, noWord c next⟩⟩, trivial⟩
    · exact ⟨⟨isDouble, fun c next =>
        ⟨(stops c next).1, noWord c next, fun point => (stops c next).2 (.inl point)⟩⟩, trivial⟩

private theorem exists_exponentSign (text : List Char) :
    ∃ exponentSign rest, text = exponentSign ++ rest ∧ IsExponentSign exponentSign ∧
      (exponentSign = [] → ∀ c ∈ rest.head?, ¬ (c = '+' ∨ c = '-')) := by
  by_cases signed : ∃ c ∈ text.head?, c = '+' ∨ c = '-'
  · obtain ⟨c, next, sign⟩ := signed
    obtain ⟨rest, rfl⟩ := List.head?_eq_some_iff.mp next
    refine ⟨[c], rest, rfl, ?_, by simp⟩
    rcases sign with rfl | rfl
    · exact .inr (.inl rfl)
    · exact .inr (.inr rfl)
  · exact ⟨[], text, rfl, .inl rfl, fun _ c next sign => signed ⟨c, next, sign⟩⟩

private theorem exists_of_mark {sign mantissa : List Char} {mark : Char} (isMinus : IsMinus sign)
    (isMantissa : IsMantissa mantissa) (isMark : isExponentMark mark = true) (text : List Char) :
    ∃ finding lexeme tail,
      sign ++ (mantissa ++ mark :: text) = lexeme ++ tail ∧ Stands finding lexeme tail ∧
        finding.IsNumeral := by
  obtain ⟨exponentSign, unsigned, rfl, isSign, noSign⟩ := exists_exponentSign text
  obtain ⟨digits, rest, rfl, allDigits, noDigit⟩ := exists_run Char.isDigit unsigned
  by_cases missing : digits = []
  · subst missing
    rw [List.nil_append] at noSign ⊢
    obtain ⟨word, tail, rfl, chars, ends⟩ := exists_run isWordChar rest
    have firstNoDigit : Stops Char.isDigit word.head? := by
      intro c first
      obtain ⟨others, rfl⟩ := List.head?_eq_some_iff.mp first
      exact noDigit c rfl
    refine ⟨.error (.number .missingExponent), sign ++ (mantissa ++ mark :: (exponentSign ++ word)),
      tail, by simp, ⟨.missingExponent isMinus isMantissa isMark isSign chars firstNoDigit, ?_⟩,
      trivial⟩
    intro c next
    refine ⟨ends c next, ?_⟩
    intro signed
    have more : exponentSign ++ word ≠ [] := by
      intro blank
      obtain ⟨rfl, rfl⟩ := List.append_eq_nil_iff.mp blank
      exact noSign rfl c next signed
    rw [List.dropLast_append_of_ne_nil (by simp), List.dropLast_append_of_ne_nil (by simp),
      List.dropLast_cons_of_ne_nil more]
    simp [isMark]
  · have isDouble := IsDouble.exponent isMinus isMantissa isMark isSign allDigits missing
    have stops : StopsNumber (sign ++ (mantissa ++ mark :: (exponentSign ++ digits))) rest.head? :=
      fun c next => ⟨noDigit c next, fun _ => by simp [isMark]⟩
    obtain ⟨finding, lexeme, tail, same, stands⟩ := exists_of_number (.inr ⟨rfl, isDouble⟩) stops
    exact ⟨finding, lexeme, tail, by simpa using same, stands⟩

/-- Digits, a point and digits: a second point spoils them, and so does a point with nothing behind
it. -/
private theorem exists_of_point {sign whole : List Char} (isMinus : IsMinus sign)
    (wholeDigits : IsDigits whole) (text : List Char) :
    ∃ finding lexeme tail,
      sign ++ (whole ++ '.' :: text) = lexeme ++ tail ∧ Stands finding lexeme tail ∧
        finding.IsNumeral := by
  obtain ⟨fraction, rest, rfl, fractionDigits, noDigit⟩ := exists_run Char.isDigit text
  by_cases point : '.' ∈ rest.head?
  · obtain ⟨others, rfl⟩ := List.head?_eq_some_iff.mp point
    obtain ⟨more, tail, rfl, numberChars, ends⟩ := exists_run isNumberChar others
    exact ⟨.error (.number .secondPoint), sign ++ (whole ++ '.' :: (fraction ++ '.' :: more)), tail,
      by simp, ⟨.secondPoint isMinus wholeDigits fractionDigits numberChars, ends⟩, trivial⟩
  · by_cases marked : ∃ c ∈ rest.head?, isExponentMark c = true
    · obtain ⟨mark, next, isMark⟩ := marked
      obtain ⟨others, rfl⟩ := List.head?_eq_some_iff.mp next
      obtain ⟨finding, lexeme, tail, same, stands⟩ :=
        exists_of_mark isMinus (.pointed wholeDigits fractionDigits) isMark others
      exact ⟨finding, lexeme, tail, by simpa using same, stands⟩
    · have plain : ∀ c ∈ rest.head?, isNumberChar c = false ∧ isExponentMark c = false := by
        intro c next
        refine ⟨isNumberChar_eq_false.mpr ⟨noDigit c next, ?_⟩, ?_⟩
        · rintro rfl
          exact point next
        · by_contra mark
          exact marked ⟨c, next, by simpa using mark⟩
      have stops (number : List Char) : StopsNumber number rest.head? := by
        intro c next
        obtain ⟨noNumber, noMark⟩ := plain c next
        refine ⟨noDigit c next, ?_⟩
        rintro (rfl | mark)
        · exact absurd noNumber (by decide)
        · rw [mark] at noMark
          cases noMark
      by_cases ending : fraction = []
      · subst ending
        by_cases alone : sign ++ whole = []
        · obtain ⟨rfl, rfl⟩ := List.append_eq_nil_iff.mp alone
          have found := exists_of_number (.inr ⟨rfl, .point⟩) (stops ['.'])
          simpa using found
        · exact ⟨.error (.number .trailingPoint), sign ++ (whole ++ ['.']), rest, by simp,
            ⟨.trailingPoint isMinus wholeDigits alone, plain⟩, trivial⟩
      · have isDouble := IsDouble.fraction isMinus wholeDigits fractionDigits ending
        obtain ⟨finding, lexeme, tail, same, stands⟩ :=
          exists_of_number (.inr ⟨rfl, isDouble⟩) (stops _)
        exact ⟨finding, lexeme, tail, by simpa using same, stands⟩

/-- Whatever begins like a number is one, sound or spoiled. -/
theorem exists_number {sign text : List Char} (isMinus : IsMinus sign)
    (begins : ∃ c ∈ text.head?, isNumberChar c = true) :
    ∃ finding lexeme rest, sign ++ text = lexeme ++ rest ∧ Stands finding lexeme rest ∧
      finding.IsNumeral := by
  obtain ⟨whole, rest, rfl, wholeDigits, noDigit⟩ := exists_run Char.isDigit text
  by_cases point : '.' ∈ rest.head?
  · obtain ⟨others, rfl⟩ := List.head?_eq_some_iff.mp point
    exact exists_of_point isMinus wholeDigits others
  · have nonempty : whole ≠ [] := by
      rintro rfl
      obtain ⟨c, next, number⟩ := begins
      rcases isNumberChar_iff.mp number with digit | rfl
      · rw [noDigit c next] at digit
        cases digit
      · exact point next
    by_cases marked : ∃ c ∈ rest.head?, isExponentMark c = true
    · obtain ⟨mark, next, isMark⟩ := marked
      obtain ⟨others, rfl⟩ := List.head?_eq_some_iff.mp next
      exact exists_of_mark isMinus (.whole wholeDigits nonempty) isMark others
    · have isInteger : IsInteger (sign ++ whole) :=
        ⟨sign, whole, isMinus, wholeDigits, nonempty, rfl⟩
      have stops : StopsNumber (sign ++ whole) rest.head? := by
        intro c next
        refine ⟨noDigit c next, ?_⟩
        rintro (rfl | mark)
        · exact absurd next point
        · exact absurd ⟨c, next, mark⟩ marked
      obtain ⟨finding, lexeme, tail, same, stands⟩ := exists_of_number (.inl ⟨rfl, isInteger⟩) stops
      exact ⟨finding, lexeme, tail, by simpa using same, stands⟩

end ScriptLexer
