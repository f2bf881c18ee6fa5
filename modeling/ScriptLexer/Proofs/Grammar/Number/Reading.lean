import ScriptLexer.Proofs.Grammar.Number.Parts

/-!
# Reading numbers

The reader of numbers finds every number of the grammar, sound or spoiled, and takes all of it.
-/
namespace ScriptLexer

open Grammar

/-! ## Sound numbers -/

/-- What may not stand behind a number: a digit, and a point or an exponent mark unless the number
has its exponent already. A word may, and spoils the number. -/
def Grammar.StopsNumber (number : List Char) (next : Option Char) : Prop :=
  ∀ c ∈ next, c.isDigit = false ∧
    (c = '.' ∨ isExponentMark c = true → number.any isExponentMark = true)

namespace Grammar.StopsNumber

variable {number : List Char} {next : Option Char}

theorem stopsDigit (stops : StopsNumber number next) : Stops Char.isDigit next :=
  fun c isNext => (stops c isNext).1

/-- A number without an exponent is followed by no point either. -/
theorem stopsNumberChar (stops : StopsNumber number next)
    (noExponent : number.any isExponentMark = false) : Stops isNumberChar next := by
  intro c isNext
  obtain ⟨noDigit, hasExponent⟩ := stops c isNext
  refine isNumberChar_eq_false.mpr ⟨noDigit, ?_⟩
  rintro rfl
  rw [hasExponent (.inl rfl)] at noExponent
  cases noExponent

theorem stopsMark (stops : StopsNumber number next)
    (noExponent : number.any isExponentMark = false) : Stops isExponentMark next := by
  intro c isNext
  by_contra mark
  rw [(stops c isNext).2 (.inr (by simpa using mark))] at noExponent
  cases noExponent

end Grammar.StopsNumber

/-- A number that stops without an exponent is closed right after its mantissa. -/
private theorem readUnsigned_closing {sign : Nat} {text rest : List Char} {mantissa : Mantissa}
    (read : Mantissa.read text = mantissa) (next : mantissa.rest = rest)
    (noMark : Stops isExponentMark rest.head?)
    (noPoint : mantissa.pointed = true → ∀ c ∈ rest.head?, c ≠ '.') :
    readUnsigned sign text =
      if mantissa.endsInPoint = true ∧ 1 < sign + mantissa.length then
        { finding := .error (.number .trailingPoint), length := sign + mantissa.length }
      else
        closeNumber (if mantissa.pointed then .double else .integer) (sign + mantissa.length)
          rest := by
  unfold readUnsigned
  rw [read]
  dsimp only
  rw [next]
  cases rest with
  | nil => simp
  | cons c rest =>
    have isMark : isExponentMark c = false := Stops.some_iff.mp noMark
    by_cases pointed : mantissa.pointed = true
    · simp [isMark, pointed, noPoint pointed c rfl]
    · simp [isMark, pointed]

theorem readNumber_integer {number rest : List Char} (isInteger : IsInteger number)
    (stops : StopsNumber number rest.head?) :
    readNumber (number ++ rest) = some (closeNumber .integer number.length rest) := by
  have noExponent := any_mark_integer isInteger
  have stopsNumber := stops.stopsNumberChar noExponent
  have noMark := stops.stopsMark noExponent
  obtain ⟨sign, digits, isMinus, allDigits, nonempty, rfl⟩ := isInteger
  have begins := (IsMantissa.whole allDigits nonempty).begins rest
  have read := Mantissa.read_whole allDigits stopsNumber
  rw [List.append_assoc, readNumber_unsigned isMinus begins,
    readUnsigned_closing read rfl noMark (by simp)]
  simp

theorem readNumber_fraction {sign whole fraction rest : List Char} (isMinus : IsMinus sign)
    (wholeDigits : IsDigits whole) (fractionDigits : IsDigits fraction)
    (stops : Stops isNumberChar rest.head?) (noMark : Stops isExponentMark rest.head?) :
    readNumber (sign ++ (whole ++ '.' :: (fraction ++ rest))) =
      some (if fraction = [] ∧ sign ++ whole ≠ [] then
        { finding := .error (.number .trailingPoint), length := (sign ++ (whole ++ ['.'])).length }
      else
        closeNumber .double (sign ++ (whole ++ '.' :: fraction)).length rest) := by
  have stopsDigit : Stops Char.isDigit rest.head? := fun c next =>
    (isNumberChar_eq_false.mp (stops c next)).1
  have noPoint : ∀ c ∈ rest.head?, c ≠ '.' :=
    fun c next => (isNumberChar_eq_false.mp (stops c next)).2
  have begins := (IsMantissa.pointed wholeDigits fractionDigits).begins rest
  rw [List.append_assoc, List.cons_append] at begins
  have read := Mantissa.read_pointed wholeDigits fractionDigits stopsDigit
  rw [readNumber_unsigned isMinus begins, readUnsigned_closing read rfl noMark (fun _ => noPoint)]
  have longer : 1 < sign.length + (whole.length + 1 + fraction.length) ↔
      sign ++ whole ≠ [] ∨ fraction ≠ [] := by
    rw [← List.length_pos_iff, ← List.length_pos_iff, List.length_append]
    omega
  cases fraction with
  | nil =>
    by_cases alone : sign ++ whole = []
    · obtain ⟨rfl, rfl⟩ := List.append_eq_nil_iff.mp alone
      simp
    · have several := longer.mpr (.inl alone)
      simp only [List.length_nil] at several
      simp [alone, several]
  | cons c others => simp [Nat.add_assoc, Nat.add_comm 1]

theorem readNumber_double {number rest : List Char} (isDouble : IsDouble number)
    (stops : StopsNumber number rest.head?) :
    readNumber (number ++ rest) = some (closeNumber .double number.length rest) := by
  cases isDouble with
  | point =>
    have noExponent : ['.'].any isExponentMark = false := by decide
    have noDigits : IsDigits [] := by simp [IsDigits]
    simpa using readNumber_fraction (.inl rfl) noDigits noDigits (stops.stopsNumberChar noExponent)
      (stops.stopsMark noExponent)
  | @fraction sign whole digits isMinus wholeDigits allDigits nonempty =>
    have noExponent : (sign ++ (whole ++ '.' :: digits)).any isExponentMark = false := by
      rw [List.any_append, any_mark_minus isMinus,
        any_mark_mantissa (.pointed wholeDigits allDigits)]
      rfl
    have read := readNumber_fraction isMinus wholeDigits allDigits
      (stops.stopsNumberChar noExponent) (stops.stopsMark noExponent)
    rw [if_neg (fun both => nonempty both.1)] at read
    simpa only [List.append_assoc, List.cons_append] using read
  | @exponent sign mantissa exponentSign digits mark isMinus isMantissa isMark isSign allDigits
      nonempty =>
    have read := readNumber_exponent (exponentSign ++ (digits ++ rest)) isMinus isMantissa isMark
    rw [readExponent_digits _ isSign allDigits nonempty stops.stopsDigit] at read
    simp only [List.append_assoc, List.cons_append, read, List.length_append, List.length_cons]
    congr 2
    omega

/-! ## Spoiled numbers -/

theorem readNumber_secondPoint {sign whole fraction more rest : List Char} (isMinus : IsMinus sign)
    (wholeDigits : IsDigits whole) (fractionDigits : IsDigits fraction)
    (numberChars : ∀ c ∈ more, isNumberChar c = true) (stops : Stops isNumberChar rest.head?) :
    readNumber (sign ++ (whole ++ '.' :: (fraction ++ '.' :: more)) ++ rest) =
      some { finding := .error (.number .secondPoint)
             length := (sign ++ (whole ++ '.' :: (fraction ++ '.' :: more))).length } := by
  have begins := (IsMantissa.pointed wholeDigits fractionDigits).begins ('.' :: (more ++ rest))
  have read := @Mantissa.read_pointed whole fraction ('.' :: (more ++ rest)) wholeDigits
    fractionDigits (by simp)
  have run : ∀ c ∈ whole ++ '.' :: (fraction ++ '.' :: more), isNumberChar c = true := by
    intro c member
    simp only [List.mem_append, List.mem_cons] at member
    rcases member with digit | rfl | digit | rfl | later
    · exact isNumberChar_iff.mpr (.inl (wholeDigits c digit))
    · decide
    · exact isNumberChar_iff.mpr (.inl (fractionDigits c digit))
    · decide
    · exact numberChars c later
  have taken := Stops.runLength_append run stops
  simp only [List.append_assoc, List.cons_append] at begins taken ⊢
  rw [readNumber_unsigned isMinus begins]
  simp [readUnsigned, read, taken]

theorem readNumber_malformed {flaw : NumberFlaw} {lexeme rest : List Char}
    (stands : Stands (.error (.number flaw)) lexeme rest) :
    readNumber (lexeme ++ rest) =
      some { finding := .error (.number flaw), length := lexeme.length } := by
  obtain ⟨form, ends⟩ := stands
  cases form with
  | secondPoint isMinus wholeDigits fractionDigits numberChars =>
    exact readNumber_secondPoint isMinus wholeDigits fractionDigits numberChars ends
  | @missingExponent sign mantissa exponentSign word mark isMinus isMantissa isMark isSign chars
      noDigit =>
    have read := readNumber_exponent (exponentSign ++ (word ++ rest)) isMinus isMantissa isMark
    rw [readExponent_missing _ isSign chars noDigit (fun c next => (ends c next).1)] at read
    · simp only [List.append_assoc, List.cons_append, read, List.length_append, List.length_cons]
      congr 2
      omega
    · rintro rfl rfl c next signed
      -- The lexeme is the mantissa with its mark, so the mark is not among its other characters.
      have marked := (ends c next).2 signed
      rw [List.append_nil, ← List.append_assoc, List.dropLast_concat, List.any_append,
        any_mark_minus isMinus, any_mark_mantissa isMantissa] at marked
      cases marked
  | @trailingPoint sign whole isMinus wholeDigits several =>
    have noDigits : IsDigits [] := by simp [IsDigits]
    have read := @readNumber_fraction sign whole [] rest isMinus wholeDigits noDigits
      (fun c next => (ends c next).1) (fun c next => (ends c next).2)
    rw [if_pos ⟨rfl, several⟩] at read
    simpa only [List.append_assoc, List.cons_append, List.nil_append] using read

/-- A word may stand behind a number that it does not go on with. -/
theorem stopsNumber_word {number word rest : List Char} {c : Char} (start : isWordStart c = true)
    (noMark : isExponentMark c = true → number.any isExponentMark = true) :
    StopsNumber number (c :: (word ++ rest)).head? := by
  rintro d next
  obtain rfl : c = d := by simpa using next
  refine ⟨isDigit_of_isWordStart start, ?_⟩
  rintro (rfl | mark)
  · exact absurd start (by decide)
  · exact noMark mark

theorem readNumber_illegalIdentifier {lexeme rest : List Char}
    (stands : Stands (.error .illegalIdentifier) lexeme rest) :
    readNumber (lexeme ++ rest) =
      some { finding := .error .illegalIdentifier, length := lexeme.length } := by
  obtain ⟨⟨number, c, word, isNumber, start, chars, noMark, rfl⟩, ends⟩ := stands
  have stops := @stopsNumber_word number word rest c start noMark
  rw [List.append_assoc, List.cons_append]
  rcases isNumber with isInteger | isDouble
  · rw [readNumber_integer isInteger stops, closeNumber_word _ _ start chars ends,
      List.length_append]
  · rw [readNumber_double isDouble stops, closeNumber_word _ _ start chars ends, List.length_append]

/-- What may stand behind a number token goes on with no number. -/
theorem stopsNumber_integer {number : List Char} {next : Option Char}
    (ends : Finding.Ends (.token .integer) number next) : StopsNumber number next := by
  intro c isNext
  obtain ⟨noNumber, noWord⟩ := ends c isNext
  obtain ⟨noDigit, noPoint⟩ := isNumberChar_eq_false.mp noNumber
  refine ⟨noDigit, ?_⟩
  rintro (rfl | mark)
  · exact absurd rfl noPoint
  · rw [isWordStart_of_isExponentMark mark] at noWord
    cases noWord

theorem stopsNumber_double {number : List Char} {next : Option Char}
    (ends : Finding.Ends (.token .double) number next) : StopsNumber number next := by
  intro c isNext
  obtain ⟨noDigit, noWord, point⟩ := ends c isNext
  refine ⟨noDigit, ?_⟩
  rintro (rfl | mark)
  · exact point rfl
  · rw [isWordStart_of_isExponentMark mark] at noWord
    cases noWord

theorem readNumber_token {kind : Token.Kind} {number rest : List Char}
    (isNumber : kind = .integer ∧ IsInteger number ∨ kind = .double ∧ IsDouble number)
    (ends : Finding.Ends (.token kind) number rest.head?) :
    readNumber (number ++ rest) = some { finding := .token kind, length := number.length } := by
  rcases isNumber with ⟨rfl, isInteger⟩ | ⟨rfl, isDouble⟩
  · rw [readNumber_integer isInteger (stopsNumber_integer ends),
      closeNumber_stops _ _ (fun c next => (ends c next).2)]
  · rw [readNumber_double isDouble (stopsNumber_double ends),
      closeNumber_stops _ _ (fun c next => (ends c next).2.1)]

end ScriptLexer
