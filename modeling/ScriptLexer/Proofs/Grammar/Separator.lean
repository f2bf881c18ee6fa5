import ScriptLexer.Proofs.Grammar.Number.Parts

/-!
# Separators

Blanks and line breaks go on with no number, word or operator. Behind most lexemes they may
therefore stand in place of the end of the text; the lexemes that reach up to the end of their line
or of the text are the exceptions.
-/
namespace ScriptLexer

open Grammar

namespace Grammar

/-- The blanks and the line break. -/
def separators : List Char := [' ', '\t', '\r', '\n']

/-- What no separator does. -/
structure Separates (c : Char) : Prop where
  noNumber : isNumberChar c = false
  noWord : isWordChar c = false
  noMark : isExponentMark c = false
  noSign : c ≠ '+' ∧ c ≠ '-'
  noOperator : ∀ a, (a, c) ∉ longOperators
  noAngle : c ≠ '<'

theorem separates_of_mem {c : Char} (member : c ∈ separators) : Separates c := by
  have listed : c = ' ' ∨ c = '\t' ∨ c = '\r' ∨ c = '\n' := by simpa [separators] using member
  have noSecond : ∀ signs ∈ longOperators, signs.2 ≠ ' ' ∧ signs.2 ≠ '\t' ∧ signs.2 ≠ '\r' ∧
      signs.2 ≠ '\n' := by decide
  rcases listed with rfl | rfl | rfl | rfl
  · exact ⟨by decide, by decide, by decide, by decide, fun a signs => (noSecond _ signs).1 rfl,
      by decide⟩
  · exact ⟨by decide, by decide, by decide, by decide, fun a signs => (noSecond _ signs).2.1 rfl,
      by decide⟩
  · exact ⟨by decide, by decide, by decide, by decide, fun a signs => (noSecond _ signs).2.2.1 rfl,
      by decide⟩
  · exact ⟨by decide, by decide, by decide, by decide, fun a signs => (noSecond _ signs).2.2.2 rfl,
      by decide⟩

/-! ## Inside a number -/

namespace Separates

variable {c : Char}

private theorem notMem_of_all {accepts : Char → Bool} (other : accepts c = false) {text : List Char}
    (all : ∀ d ∈ text, accepts d = true) : c ∉ text := by
  intro member
  rw [all c member] at other
  cases other

theorem notMem_digits (separates : Separates c) {digits : List Char} (allDigits : IsDigits digits) :
    c ∉ digits :=
  notMem_of_all (isNumberChar_eq_false.mp separates.noNumber).1 allDigits

theorem notMem_minus (separates : Separates c) {sign : List Char} (isMinus : IsMinus sign) :
    c ∉ sign := by
  rcases isMinus with rfl | rfl
  · simp
  · simpa using separates.noSign.2

theorem notMem_mantissa (separates : Separates c) {mantissa : List Char}
    (isMantissa : IsMantissa mantissa) : c ∉ mantissa := by
  cases isMantissa with
  | whole digits _ => exact separates.notMem_digits digits
  | pointed whole fraction =>
    have noPoint := (isNumberChar_eq_false.mp separates.noNumber).2
    simp [noPoint, separates.notMem_digits whole, separates.notMem_digits fraction]

theorem notMem_exponent (separates : Separates c) {exponentSign rest : List Char} {mark : Char}
    (isMark : isExponentMark mark = true) (isSign : IsExponentSign exponentSign)
    (unseen : c ∉ rest) : c ∉ mark :: (exponentSign ++ rest) := by
  have noMark : c ≠ mark := by
    rintro rfl
    rw [separates.noMark] at isMark
    cases isMark
  rcases isSign with rfl | rfl | rfl
  · simp [noMark, unseen]
  · simp [noMark, unseen, separates.noSign.1]
  · simp [noMark, unseen, separates.noSign.2]

theorem notMem_double (separates : Separates c) {number : List Char} (isDouble : IsDouble number) :
    c ∉ number := by
  cases isDouble with
  | point => simpa using (isNumberChar_eq_false.mp separates.noNumber).2
  | fraction isMinus whole digits _ =>
    rw [List.mem_append, not_or]
    exact ⟨separates.notMem_minus isMinus, separates.notMem_mantissa (.pointed whole digits)⟩
  | exponent isMinus isMantissa isMark isSign digits _ =>
    rw [List.mem_append, List.mem_append, not_or, not_or]
    exact ⟨separates.notMem_minus isMinus, separates.notMem_mantissa isMantissa,
      separates.notMem_exponent isMark isSign (separates.notMem_digits digits)⟩

theorem notMem_malformed (separates : Separates c) {flaw : NumberFlaw} {text : List Char}
    (malformed : IsMalformedNumber flaw text) : c ∉ text := by
  cases malformed with
  | secondPoint isMinus whole fraction chars =>
    have noPoint := (isNumberChar_eq_false.mp separates.noNumber).2
    have noMore := notMem_of_all separates.noNumber chars
    simp [noPoint, separates.notMem_minus isMinus, separates.notMem_digits whole,
      separates.notMem_digits fraction, noMore]
  | missingExponent isMinus isMantissa isMark isSign chars _ =>
    rw [List.mem_append, List.mem_append, not_or, not_or]
    exact ⟨separates.notMem_minus isMinus, separates.notMem_mantissa isMantissa,
      separates.notMem_exponent isMark isSign (notMem_of_all separates.noWord chars)⟩
  | trailingPoint isMinus whole _ =>
    have noPoint := (isNumberChar_eq_false.mp separates.noNumber).2
    simp [noPoint, separates.notMem_minus isMinus, separates.notMem_digits whole]

theorem notMem_illegalIdentifier (separates : Separates c) {text : List Char}
    (illegal : IsIllegalIdentifier text) : c ∉ text := by
  obtain ⟨number, first, word, isNumber, start, chars, _, rfl⟩ := illegal
  rw [List.mem_append, not_or]
  refine ⟨?_, notMem_of_all separates.noWord (isWordChars_cons start chars)⟩
  rcases isNumber with ⟨sign, digits, isMinus, allDigits, _, rfl⟩ | isDouble
  · rw [List.mem_append, not_or]
    exact ⟨separates.notMem_minus isMinus, separates.notMem_digits allDigits⟩
  · exact separates.notMem_double isDouble

end Separates

end Grammar

namespace Finding

/-- The lexeme reaches up to the end of its line or of the text, and takes blanks along. -/
def takesBlanks : Finding → Bool
  | .token .lineComment => true
  | .openComment => true
  | .error (.openString _) => true
  | _ => false

variable {finding : Finding} {lexeme : List Char} {c : Char}

theorem admits_separator (separates : Separates c) (short : finding.takesBlanks = false)
    (noNewline : finding ≠ .token .newline) : finding.Admits lexeme c := by
  obtain ⟨noNumber, noWord, noMark, ⟨noPlus, noMinus⟩, noOperator, noAngle⟩ := separates
  obtain ⟨noDigit, noPoint⟩ := isNumberChar_eq_false.mp noNumber
  have noStart : isWordStart c = false := by
    by_contra start
    rw [Bool.not_eq_false] at start
    rw [isWordChar_of_isWordStart start] at noWord
    cases noWord
  cases finding with
  | token kind =>
    cases kind with
    | newline => exact absurd rfl noNewline
    | lineComment => cases short
    | blockComment => exact trivial
    | string => exact trivial
    | integer => exact ⟨noNumber, noStart⟩
    | double => exact ⟨noDigit, noStart, fun point => absurd point noPoint⟩
    | keyword => exact noWord
    | identifier => exact noWord
    | operator => exact ⟨fun a _ => noOperator a, fun _ => noNumber, fun _ => noAngle⟩
    | punctuation => exact trivial
  | openComment => cases short
  | error cause =>
    cases cause with
    | unrecognized first => exact noOperator first
    | openString quote => cases short
    | number flaw =>
      cases flaw with
      | secondPoint => exact noNumber
      | missingExponent =>
        refine ⟨noWord, ?_⟩
        rintro (plus | minus)
        · exact absurd plus noPlus
        · exact absurd minus noMinus
      | trailingPoint => exact ⟨noNumber, noMark⟩
    | illegalIdentifier => exact noWord
    | operatorSequence previous => exact trivial
    | openComment => exact trivial

/-- A blank may stand behind every lexeme that takes none along. -/
theorem admits_blank (blank : isBlank c = true) (short : finding.takesBlanks = false) :
    finding.Admits lexeme c := by
  have listed : c ∈ [' ', '\t', '\r'] := by simpa [isBlank, or_assoc] using blank
  have separator : c ∈ separators := by
    have among : ∀ blank ∈ [' ', '\t', '\r'], blank ∈ separators :=
      forall_mem_of_all (by decide)
    exact among c listed
  by_cases newline : finding = .token .newline
  · subst newline
    have noBreak : ∀ blank ∈ [' ', '\t', '\r'], blank ≠ '\n' := forall_mem_of_all (by decide)
    exact noBreak c listed
  · exact admits_separator (separates_of_mem separator) short newline

/-- A line break may stand behind every lexeme that neither is one nor takes it along. -/
theorem admits_lineBreak (form : finding.Form lexeme) (noNewline : finding ≠ .token .newline)
    (closed : finding ≠ .openComment)
    (noDangling : ∀ quote, finding = .error (.openString quote) → ¬ IsDanglingString lexeme) :
    finding.Admits lexeme '\n' := by
  cases takes : finding.takesBlanks with
  | false => exact admits_separator (separates_of_mem (by decide)) takes noNewline
  | true =>
    unfold takesBlanks at takes
    split at takes
    · exact rfl
    · exact absurd rfl closed
    · obtain ⟨quotes, body, isBody, rfl | rfl⟩ := form
      · exact ⟨rfl, isBody⟩
      · exact absurd ⟨_, body, quotes, isBody, rfl⟩ (noDangling _ rfl)
    · cases takes

end Finding

end ScriptLexer
