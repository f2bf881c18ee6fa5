import Mathlib.Data.List.Basic
import ScriptLexer.Proofs.Grammar.Basic

/-!
# The parts of a number

A number is read in stages: a mantissa, perhaps an exponent, and then the word that may spoil it.
Each stage takes exactly the part of the grammar that stands there, whatever follows it.
-/
namespace ScriptLexer

namespace Grammar

theorem isExponentMark_iff {c : Char} : isExponentMark c = true ↔ c = 'e' ∨ c = 'E' := by
  simp [isExponentMark]

theorem isNumberChar_iff {c : Char} : isNumberChar c = true ↔ c.isDigit = true ∨ c = '.' := by
  simp [isNumberChar]

theorem isNumberChar_eq_false {c : Char} :
    isNumberChar c = false ↔ c.isDigit = false ∧ c ≠ '.' := by
  simp [isNumberChar]

theorem isExponentMark_of_isDigit {c : Char} (digit : c.isDigit = true) :
    isExponentMark c = false := by
  by_contra mark
  rcases isExponentMark_iff.mp (by simpa using mark) with rfl | rfl
  · revert digit; decide
  · revert digit; decide

theorem isNumberChar_of_isExponentMark {c : Char} (mark : isExponentMark c = true) :
    isNumberChar c = false := by
  rcases isExponentMark_iff.mp mark with rfl | rfl
  · decide
  · decide

theorem isWordStart_of_isExponentMark {c : Char} (mark : isExponentMark c = true) :
    isWordStart c = true := by
  rcases isExponentMark_iff.mp mark with rfl | rfl
  · decide
  · decide

theorem not_sign_of_isWordChar {c : Char} (word : isWordChar c = true) : ¬ (c = '+' ∨ c = '-') := by
  rintro (rfl | rfl)
  · revert word; decide
  · revert word; decide

theorem isWordChar_of_isDigit {c : Char} (digit : c.isDigit = true) : isWordChar c = true := by
  simp [isWordChar, Char.isAlphanum, digit]

theorem isWordChar_of_isWordStart {c : Char} (start : isWordStart c = true) :
    isWordChar c = true := by
  simp only [isWordStart, Bool.or_eq_true] at start
  rcases start with letter | underscore
  · simp [isWordChar, Char.isAlphanum, letter]
  · simp [isWordChar, underscore]

theorem isDigit_of_isWordStart {c : Char} (start : isWordStart c = true) : c.isDigit = false := by
  have alpha : c.isAlpha = (decide (c.val ≥ 'A'.val ∧ c.val ≤ 'Z'.val) ||
      (decide (c.val ≥ 'a'.val) && decide (c.val ≤ 'z'.val))) := rfl
  by_contra digit
  simp only [Bool.not_eq_false, Char.isDigit, Bool.and_eq_true, decide_eq_true_eq,
    UInt32.le_iff_toNat_le] at digit
  simp only [isWordStart, alpha, Bool.or_eq_true, Bool.and_eq_true, decide_eq_true_eq,
    UInt32.le_iff_toNat_le, beq_iff_eq] at start
  have nine : '9'.val.toNat = 57 := rfl
  rcases start with (upper | lower) | rfl
  · have first : 'A'.val.toNat = 65 := rfl
    omega
  · have first : 'a'.val.toNat = 97 := rfl
    omega
  · revert digit; decide

theorem isWordChars_cons {c : Char} {word : List Char} (start : isWordStart c = true)
    (chars : IsWordChars word) : IsWordChars (c :: word) := by
  intro d member
  rcases List.mem_cons.mp member with rfl | later
  · exact isWordChar_of_isWordStart start
  · exact chars d later

variable {sign whole digits : List Char}

/-- What ends in digits does not end in a point. -/
theorem getLast?_ne_point {front : List Char} (allDigits : IsDigits digits)
    (nonempty : digits ≠ []) : (front ++ digits).getLast? ≠ some '.' := by
  rw [List.getLast?_append_of_ne_nil _ nonempty]
  intro last
  exact absurd (allDigits '.' (List.mem_of_getLast? last)) (by decide)

/-! ## Exponent marks of a number -/

theorem any_mark_minus (isMinus : IsMinus sign) : sign.any isExponentMark = false := by
  rcases isMinus with rfl | rfl
  · rfl
  · decide

theorem any_mark_digits (allDigits : IsDigits digits) : digits.any isExponentMark = false := by
  simp only [List.any_eq_false, Bool.not_eq_true]
  exact fun c member => isExponentMark_of_isDigit (allDigits c member)

theorem any_mark_mantissa {mantissa : List Char} (isMantissa : IsMantissa mantissa) :
    mantissa.any isExponentMark = false := by
  cases isMantissa with
  | whole allDigits _ => exact any_mark_digits allDigits
  | pointed wholeDigits fractionDigits =>
    rw [List.any_append, List.any_cons, any_mark_digits wholeDigits, any_mark_digits fractionDigits]
    decide

theorem any_mark_integer {text : List Char} (isInteger : IsInteger text) :
    text.any isExponentMark = false := by
  obtain ⟨sign, digits, isMinus, allDigits, _, rfl⟩ := isInteger
  rw [List.any_append, any_mark_minus isMinus, any_mark_digits allDigits]
  rfl

end Grammar

open Grammar

/-! ## The mantissa -/

namespace Mantissa

theorem read_whole {digits rest : List Char} (allDigits : IsDigits digits)
    (stops : Stops isNumberChar rest.head?) :
    Mantissa.read (digits ++ rest) =
      { length := digits.length, pointed := false, endsInPoint := false, rest } := by
  have stopsDigits : Stops Char.isDigit rest.head? := fun c next =>
    (isNumberChar_eq_false.mp (stops c next)).1
  have noPoint : ∀ fraction, rest ≠ '.' :: fraction := by
    rintro fraction rfl
    exact absurd (stops '.' rfl) (by decide)
  unfold Mantissa.read
  rw [Stops.runLength_append allDigits stopsDigits, Stops.dropWhile_append allDigits stopsDigits]
  split
  case h_1 fraction => exact absurd rfl (noPoint fraction)
  case h_2 => rfl

theorem read_pointed {whole fraction rest : List Char} (wholeDigits : IsDigits whole)
    (fractionDigits : IsDigits fraction) (stops : Stops Char.isDigit rest.head?) :
    Mantissa.read (whole ++ '.' :: (fraction ++ rest)) =
      { length := whole.length + 1 + fraction.length, pointed := true,
        endsInPoint := fraction.length == 0, rest } := by
  have point : Stops Char.isDigit ('.' :: (fraction ++ rest)).head? := by simp
  unfold Mantissa.read
  rw [Stops.runLength_append wholeDigits point, Stops.dropWhile_append wholeDigits point]
  simp only [Stops.runLength_append fractionDigits stops,
    Stops.dropWhile_append fractionDigits stops]

theorem read_isMantissa {mantissa rest : List Char} (isMantissa : IsMantissa mantissa)
    (stops : Stops isNumberChar rest.head?) :
    ∃ pointed endsInPoint, Mantissa.read (mantissa ++ rest) =
      { length := mantissa.length, pointed, endsInPoint, rest } := by
  cases isMantissa with
  | whole allDigits _ => exact ⟨false, false, read_whole allDigits stops⟩
  | @pointed whole fraction wholeDigits fractionDigits =>
    refine ⟨true, fraction.length == 0, ?_⟩
    rw [List.append_assoc, List.cons_append, read_pointed wholeDigits fractionDigits
      (fun c next => (isNumberChar_eq_false.mp (stops c next)).1)]
    simp only [List.length_append, List.length_cons, Mantissa.mk.injEq, and_self, and_true]
    omega

end Mantissa

theorem Grammar.IsMantissa.begins {mantissa : List Char} (isMantissa : IsMantissa mantissa)
    (rest : List Char) : ∃ c ∈ (mantissa ++ rest).head?, isNumberChar c = true := by
  cases isMantissa with
  | @whole digits allDigits nonempty =>
    obtain ⟨c, others, rfl⟩ := List.exists_cons_of_ne_nil nonempty
    exact ⟨c, rfl, isNumberChar_iff.mpr (.inl (allDigits c (by simp)))⟩
  | @pointed whole fraction wholeDigits _ =>
    cases whole with
    | nil => exact ⟨'.', rfl, by decide⟩
    | cons c others => exact ⟨c, rfl, isNumberChar_iff.mpr (.inl (wholeDigits c (by simp)))⟩

theorem readNumber_unsigned {sign text : List Char} (isMinus : IsMinus sign)
    (begins : ∃ c ∈ text.head?, isNumberChar c = true) :
    readNumber (sign ++ text) = some (readUnsigned sign.length text) := by
  obtain ⟨c, head, number⟩ := begins
  obtain ⟨others, rfl⟩ := List.head?_eq_some_iff.mp head
  have noMinus : c ≠ '-' := by
    rintro rfl
    revert number
    decide
  rcases isMinus with rfl | rfl
  · simp [readNumber, noMinus, number]
  · simp [readNumber, number]

/-! ## The word behind a number -/

theorem closeNumber_stops {rest : List Char} (kind : Token.Kind) (length : Nat)
    (stops : Stops isWordStart rest.head?) :
    closeNumber kind length rest = { finding := .token kind, length } := by
  cases rest with
  | nil => rfl
  | cons c rest => simp [closeNumber, Stops.some_iff.mp stops]

theorem closeNumber_word {c : Char} {word rest : List Char} (kind : Token.Kind) (length : Nat)
    (start : isWordStart c = true) (chars : IsWordChars word)
    (stops : Stops isWordChar rest.head?) :
    closeNumber kind length (c :: (word ++ rest)) =
      { finding := .error .illegalIdentifier, length := length + (c :: word).length } := by
  have taken : runLength isWordChar (c :: (word ++ rest)) = (c :: word).length :=
    Stops.runLength_append (isWordChars_cons start chars) stops
  simp [closeNumber, start, taken]

/-! ## The exponent -/

/-- A sign in front of an exponent is taken with it, and nothing else is. -/
theorem readExponent_sign {exponentSign text : List Char} (length : Nat)
    (isSign : IsExponentSign exponentSign)
    (unsigned : exponentSign = [] → ∀ c ∈ text.head?, ¬ (c = '+' ∨ c = '-')) :
    readExponent length (exponentSign ++ text) =
      if runLength Char.isDigit text = 0 then
        { finding := .error (.number .missingExponent)
          length := length + exponentSign.length + runLength isWordChar text }
      else
        closeNumber .double (length + exponentSign.length + runLength Char.isDigit text)
          (text.dropWhile Char.isDigit) := by
  rcases isSign with rfl | rfl | rfl
  · cases text with
    | nil => simp [readExponent]
    | cons c rest =>
      have noSign := unsigned rfl c rfl
      simp [readExponent, noSign]
  · simp [readExponent]
  · simp [readExponent]

theorem readExponent_digits {exponentSign digits rest : List Char} (length : Nat)
    (isSign : IsExponentSign exponentSign) (allDigits : IsDigits digits) (nonempty : digits ≠ [])
    (stops : Stops Char.isDigit rest.head?) :
    readExponent length (exponentSign ++ (digits ++ rest)) =
      closeNumber .double (length + exponentSign.length + digits.length) rest := by
  rw [readExponent_sign length isSign, Stops.runLength_append allDigits stops,
    Stops.dropWhile_append allDigits stops, if_neg (by simpa using nonempty)]
  intro _ c next
  obtain ⟨first, others, rfl⟩ := List.exists_cons_of_ne_nil nonempty
  obtain rfl : first = c := by simpa using next
  exact not_sign_of_isWordChar (isWordChar_of_isDigit (allDigits first (by simp)))

theorem readExponent_missing {exponentSign word rest : List Char} (length : Nat)
    (isSign : IsExponentSign exponentSign) (chars : IsWordChars word)
    (noDigit : Stops Char.isDigit word.head?) (stops : Stops isWordChar rest.head?)
    (unsigned : exponentSign = [] → word = [] → ∀ c ∈ rest.head?, ¬ (c = '+' ∨ c = '-')) :
    readExponent length (exponentSign ++ (word ++ rest)) =
      { finding := .error (.number .missingExponent)
        length := length + exponentSign.length + word.length } := by
  have noDigits : runLength Char.isDigit (word ++ rest) = 0 := by
    cases word with
    | nil =>
      cases rest with
      | nil => rfl
      | cons c rest =>
        have noWord : isWordChar c = false := Stops.some_iff.mp stops
        have noDigit : c.isDigit = false := by
          by_contra digit
          rw [isWordChar_of_isDigit (by simpa using digit)] at noWord
          cases noWord
        simp [runLength, noDigit]
    | cons c word => simp [runLength, Stops.some_iff.mp noDigit]
  rw [readExponent_sign length isSign, if_pos noDigits, Stops.runLength_append chars stops]
  intro absent c next
  cases word with
  | nil => exact unsigned absent rfl c next
  | cons first word =>
    obtain rfl : first = c := by simpa using next
    exact not_sign_of_isWordChar (chars first (by simp))

theorem readNumber_exponent {sign mantissa : List Char} {mark : Char} (rest : List Char)
    (isMinus : IsMinus sign) (isMantissa : IsMantissa mantissa)
    (isMark : isExponentMark mark = true) :
    readNumber (sign ++ (mantissa ++ mark :: rest)) =
      some (readExponent (sign.length + mantissa.length + 1) rest) := by
  have noNumber := isNumberChar_of_isExponentMark isMark
  have noPoint := (isNumberChar_eq_false.mp noNumber).2
  obtain ⟨pointed, endsInPoint, read⟩ :=
    @Mantissa.read_isMantissa mantissa (mark :: rest) isMantissa (by simpa using noNumber)
  rw [readNumber_unsigned isMinus (isMantissa.begins _)]
  simp [readUnsigned, read, noPoint, isMark]

end ScriptLexer
