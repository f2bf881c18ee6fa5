import ScriptLexer.Proofs.Rules.Outcome
import ScriptLexer.Proofs.Text.Longest

/-!
# The rule for numbers

A number is a sign, the longest decimal behind it, and what the characters behind that make of it.
The rule cuts the text at longest parts of languages and names the outcome of every case; it says
nothing of a loop, of flags, or of the order in which characters are seen.
-/
namespace ScriptLexer

namespace Grammar

/-- `[0-9]*(\.[0-9]*)?` -/
inductive IsDecimal : List Char → Prop
  | whole {digits : List Char} : IsDigits digits → IsDecimal digits
  | pointed {whole fraction : List Char} :
      IsDigits whole → IsDigits fraction → IsDecimal (whole ++ '.' :: fraction)

/-- The text begins with a digit or a point, or with a minus sign before one of them. -/
def beginsNumber : List Char → Bool
  | '-' :: c :: _ => isNumberChar c
  | c :: _ => isNumberChar c
  | [] => false

/-- The first character of the text, if it is one of the signs. -/
def signAhead (signs text : List Char) : List Char :=
  (text.take 1).filter fun c => decide (c ∈ signs)

/-- The sign of a number ahead, the longest decimal behind the sign, and what is behind both. -/
structure NumberParts (text sign decimal rest : List Char) : Prop where
  split : text = sign ++ (decimal ++ rest)
  isSign : sign = signAhead ['-'] text
  isDecimal : Longest IsDecimal decimal rest

def malformed (what : String) (lexeme : List Char) : Outcome :=
  .error .malformedNumber
    ("Malformed number literal: " ++ what ++ " ('" ++ String.ofList lexeme ++ "')")

/-- A complete number is a token, unless a word stands right behind it and joins the lexeme. -/
inductive NumberEnd (kind : Token.Kind) (number : List Char) :
    (rest lexeme : List Char) → Outcome → Prop
  | word {word rest : List Char} (starts : ∃ c ∈ word.head?, isWordStart c = true)
      (joins : Longest IsWordChars word rest) :
      NumberEnd kind number (word ++ rest) (number ++ word)
        (.error .illegalIdentifier
          ("Illegal identifier '" ++ String.ofList (number ++ word) ++
            "' (cannot start with digit)"))
  | token {rest : List Char} (noWord : Stops isWordStart rest.head?) :
      NumberEnd kind number rest number (.token kind)

/-- What becomes of a number with this sign and this decimal before the rest of the text: its lexeme
and its outcome. -/
inductive NumberRule (sign decimal : List Char) : (rest lexeme : List Char) → Outcome → Prop
  /-- A second point joins the lexeme, and so do all digits and points behind it. -/
  | secondPoint {others run rest : List Char} (pointed : '.' ∈ decimal)
      (split : decimal ++ '.' :: others = run ++ rest)
      (joins : Longest (fun text => ∀ c ∈ text, isNumberChar c = true) run rest) :
      NumberRule sign decimal ('.' :: others) (sign ++ run)
        (malformed "multiple decimal points" (sign ++ run))
  /-- An exponent makes any decimal a double. -/
  | exponent {mark : Char} {exponentSign digits rest lexeme : List Char} {outcome : Outcome}
      (isMark : mark = 'e' ∨ mark = 'E')
      (isSign : exponentSign = signAhead ['+', '-'] (exponentSign ++ (digits ++ rest)))
      (nonempty : digits ≠ []) (isExponent : Longest IsDigits digits rest)
      (ends : NumberEnd .double (sign ++ (decimal ++ mark :: (exponentSign ++ digits))) rest lexeme
        outcome) :
      NumberRule sign decimal (mark :: (exponentSign ++ (digits ++ rest))) lexeme outcome
  /-- An exponent without digits takes the word along that stands in their place. -/
  | missingExponent {mark : Char} {exponentSign word rest : List Char}
      (isMark : mark = 'e' ∨ mark = 'E')
      (isSign : exponentSign = signAhead ['+', '-'] (exponentSign ++ (word ++ rest)))
      (noDigit : Stops Char.isDigit (word ++ rest).head?) (joins : Longest IsWordChars word rest) :
      NumberRule sign decimal (mark :: (exponentSign ++ (word ++ rest)))
        (sign ++ (decimal ++ mark :: (exponentSign ++ word)))
        (malformed "missing exponent value" (sign ++ (decimal ++ mark :: (exponentSign ++ word))))
  /-- No number ends in a point, but for the lone point. -/
  | trailingPoint {rest : List Char} (noSecond : ¬ ('.' ∈ decimal ∧ rest.head? = some '.'))
      (noExponent : ∀ c ∈ rest.head?, ¬ (c = 'e' ∨ c = 'E'))
      (trailing : (sign ++ decimal).getLast? = some '.' ∧ 1 < (sign ++ decimal).length) :
      NumberRule sign decimal rest (sign ++ decimal)
        (malformed "trailing decimal point" (sign ++ decimal))
  /-- Any other decimal is complete. -/
  | plain {rest lexeme : List Char} {outcome : Outcome}
      (noSecond : ¬ ('.' ∈ decimal ∧ rest.head? = some '.'))
      (noExponent : ∀ c ∈ rest.head?, ¬ (c = 'e' ∨ c = 'E'))
      (noTrailing : ¬ ((sign ++ decimal).getLast? = some '.' ∧ 1 < (sign ++ decimal).length))
      (ends : NumberEnd (if '.' ∈ decimal then .double else .integer) (sign ++ decimal) rest lexeme
        outcome) :
      NumberRule sign decimal rest lexeme outcome

/-! ## The sign -/

section Sign

variable (signs text : List Char)

theorem exists_signAhead : ∃ rest, text = signAhead signs text ++ rest := by
  cases text with
  | nil => exact ⟨[], rfl⟩
  | cons c others =>
    by_cases sign : c ∈ signs
    · exact ⟨others, by simp [signAhead, sign]⟩
    · exact ⟨c :: others, by simp [signAhead, sign]⟩

theorem signAhead_cases :
    signAhead signs text = [] ∨ ∃ sign ∈ signs, signAhead signs text = [sign] := by
  cases text with
  | nil => exact .inl rfl
  | cons c others =>
    by_cases sign : c ∈ signs
    · exact .inr ⟨c, sign, by simp [signAhead, sign]⟩
    · exact .inl (by simp [signAhead, sign])

variable {signs text}

/-- Where no sign is taken, the text begins with none. -/
theorem notMem_of_signAhead_eq_nil (unsigned : signAhead signs text = []) :
    ∀ c ∈ text.head?, c ∉ signs := by
  intro c next sign
  obtain ⟨others, rfl⟩ := List.head?_eq_some_iff.mp next
  simp [signAhead, sign] at unsigned

theorem isMinus_signAhead : IsMinus (signAhead ['-'] text) := by
  rcases signAhead_cases ['-'] text with unsigned | ⟨sign, member, one⟩
  · exact .inl unsigned
  · rw [List.mem_singleton.mp member] at one
    exact .inr one

theorem isExponentSign_signAhead : IsExponentSign (signAhead ['+', '-'] text) := by
  rcases signAhead_cases ['+', '-'] text with unsigned | ⟨sign, member, one⟩
  · exact .inl unsigned
  · rcases List.mem_pair.mp member with rfl | rfl
    · exact .inr (.inl one)
    · exact .inr (.inr one)

end Sign

/-! ## The decimal -/

section Decimal

variable {decimal rest : List Char}

theorem IsDecimal.numberChars (isDecimal : IsDecimal decimal) :
    ∀ c ∈ decimal, isNumberChar c = true := by
  intro c member
  cases isDecimal with
  | whole digits => exact isNumberChar_iff.mpr (.inl (digits c member))
  | pointed whole fraction =>
    rcases List.mem_append.mp member with inWhole | inBack
    · exact isNumberChar_iff.mpr (.inl (whole c inWhole))
    · rcases List.mem_cons.mp inBack with point | inFraction
      · exact isNumberChar_iff.mpr (.inr point)
      · exact isNumberChar_iff.mpr (.inl (fraction c inFraction))

theorem point_notMem (digits : IsDigits decimal) : '.' ∉ decimal := by
  intro member
  exact absurd (digits '.' member) (by decide)

theorem isDigits_concat {digits : List Char} {c : Char} (isDigits : IsDigits digits)
    (digit : c.isDigit = true) : IsDigits (digits ++ [c]) := by
  intro d member
  rcases List.mem_append.mp member with before | here
  · exact isDigits d before
  · rw [List.mem_singleton.mp here]
    exact digit

/-- What stands behind a longest decimal: no digit, and no point if it has none yet. -/
theorem cases_longest_decimal (longest : Longest IsDecimal decimal rest) :
    IsDigits decimal ∧ Stops isNumberChar rest.head? ∨
      ∃ whole fraction, decimal = whole ++ '.' :: fraction ∧ IsDigits whole ∧ IsDigits fraction ∧
        Stops Char.isDigit rest.head? := by
  have leads {c : Char} (next : c ∈ rest.head?) : [c] <+: rest := by
    obtain ⟨others, rfl⟩ := List.head?_eq_some_iff.mp next
    exact ⟨others, rfl⟩
  cases longest.member with
  | whole digits =>
    refine .inl ⟨digits, ?_⟩
    intro c next
    by_contra number
    refine longest.not_longer (leads next) ?_
    rcases isNumberChar_iff.mp (by simpa using number) with digit | rfl
    · exact .whole (isDigits_concat digits digit)
    · exact .pointed digits (by simp [IsDigits])
  | @pointed whole fraction wholeDigits fractionDigits =>
    refine .inr ⟨whole, fraction, rfl, wholeDigits, fractionDigits, ?_⟩
    intro c next
    by_contra digit
    refine longest.not_longer (leads next) ?_
    rw [List.append_assoc, List.cons_append]
    exact .pointed wholeDigits (isDigits_concat fractionDigits (by simpa using digit))

theorem isMantissa_of_isDecimal (isDecimal : IsDecimal decimal) (nonempty : decimal ≠ []) :
    IsMantissa decimal := by
  cases isDecimal with
  | whole digits => exact .whole digits nonempty
  | pointed whole fraction => exact .pointed whole fraction

end Decimal

/-! ## Every number has a rule -/

namespace NumberParts

variable {text sign decimal rest : List Char}

theorem isMinus (parts : NumberParts text sign decimal rest) : IsMinus sign := by
  rw [parts.isSign]
  exact isMinus_signAhead

theorem beginsNumber_iff (parts : NumberParts text sign decimal rest) :
    beginsNumber text = true ↔ ∃ c ∈ (decimal ++ rest).head?, isNumberChar c = true := by
  have isSign := parts.isSign
  have split := parts.split
  rcases parts.isMinus with rfl | rfl
  · cases text with
    | nil => simp [← show [] = decimal ++ rest from split, beginsNumber]
    | cons c others =>
      have noMinus : c ≠ '-' := by simpa using notMem_of_signAhead_eq_nil isSign.symm c rfl
      rw [← show c :: others = decimal ++ rest from split]
      simp [beginsNumber, noMinus]
  · rw [split, List.singleton_append]
    cases decimal ++ rest with
    | nil => exact iff_of_false (by decide) (by simp)
    | cons c others =>
      refine ⟨fun number => ⟨c, rfl, number⟩, ?_⟩
      rintro ⟨d, next, number⟩
      obtain rfl : c = d := Option.some.inj next
      exact number

/-- The decimal of a number is not empty. -/
theorem decimal_ne_nil (parts : NumberParts text sign decimal rest)
    (begins : beginsNumber text = true) : decimal ≠ [] := by
  rintro rfl
  obtain ⟨c, next, number⟩ := parts.beginsNumber_iff.mp begins
  rcases cases_longest_decimal parts.isDecimal with ⟨_, stops⟩ | ⟨whole, fraction, split, _⟩
  · rw [stops c next] at number
    cases number
  · simp at split

end NumberParts

theorem exists_numberParts (text : List Char) :
    ∃ sign decimal rest, NumberParts text sign decimal rest := by
  obtain ⟨unsigned, split⟩ := exists_signAhead ['-'] text
  obtain ⟨decimal, rest, rfl, longest⟩ :=
    exists_longest (IsDecimal.whole (by simp [IsDigits])) unsigned
  exact ⟨_, decimal, rest, split, rfl, longest⟩

theorem exists_numberEnd (kind : Token.Kind) (number rest : List Char) :
    ∃ lexeme outcome, NumberEnd kind number rest lexeme outcome := by
  by_cases starts : ∃ c ∈ rest.head?, isWordStart c = true
  · obtain ⟨word, behind, rfl, longest⟩ := @exists_longest IsWordChars (by simp [IsWordChars]) rest
    refine ⟨_, _, .word ?_ longest⟩
    cases word with
    | cons c word => exact starts
    | nil =>
      obtain ⟨c, next, start⟩ := starts
      have noWord := (Longest.run_iff.mp longest).2 c next
      rw [isWordChar_of_isWordStart start] at noWord
      cases noWord
  · refine ⟨number, _, .token ?_⟩
    intro c next
    by_contra start
    exact starts ⟨c, next, by simpa using start⟩

theorem exists_numberRule (sign decimal rest : List Char) :
    ∃ lexeme outcome, NumberRule sign decimal rest lexeme outcome := by
  by_cases second : '.' ∈ decimal ∧ rest.head? = some '.'
  · obtain ⟨pointed, next⟩ := second
    obtain ⟨others, rfl⟩ := List.head?_eq_some_iff.mp next
    obtain ⟨run, behind, split, longest⟩ :=
      @exists_longest (fun text => ∀ c ∈ text, isNumberChar c = true) (by simp)
        (decimal ++ '.' :: others)
    exact ⟨_, _, .secondPoint pointed split longest⟩
  by_cases marked : ∃ c ∈ rest.head?, c = 'e' ∨ c = 'E'
  · obtain ⟨mark, next, isMark⟩ := marked
    obtain ⟨after, rfl⟩ := List.head?_eq_some_iff.mp next
    obtain ⟨unsigned, split⟩ := exists_signAhead ['+', '-'] after
    obtain ⟨digits, behind, rfl, longest⟩ := @exists_longest IsDigits (by simp [IsDigits]) unsigned
    by_cases missing : digits = []
    · subst missing
      obtain ⟨word, tail, rfl, joins⟩ := @exists_longest IsWordChars (by simp [IsWordChars]) behind
      rw [List.nil_append] at split
      rw [split]
      exact ⟨_, _, .missingExponent isMark (by rw [← split]) (Longest.run_iff.mp longest).2 joins⟩
    · obtain ⟨lexeme, outcome, ends⟩ := exists_numberEnd .double
        (sign ++ (decimal ++ mark :: (signAhead ['+', '-'] after ++ digits))) behind
      rw [split]
      exact ⟨lexeme, outcome, .exponent isMark (by rw [← split]) missing longest ends⟩
  · have noExponent : ∀ c ∈ rest.head?, ¬ (c = 'e' ∨ c = 'E') :=
      fun c next mark => marked ⟨c, next, mark⟩
    by_cases trailing : (sign ++ decimal).getLast? = some '.' ∧ 1 < (sign ++ decimal).length
    · exact ⟨_, _, .trailingPoint second noExponent trailing⟩
    · obtain ⟨lexeme, outcome, ends⟩ :=
        exists_numberEnd (if '.' ∈ decimal then .double else .integer) (sign ++ decimal) rest
      exact ⟨lexeme, outcome, .plain second noExponent trailing ends⟩

end Grammar

open Grammar

/-! ## Reading by the rule -/

section Reading

variable {options : LexingOptions} {text sign decimal rest lexeme number : List Char}
  {kind : Token.Kind} {outcome : Outcome}

theorem closeNumber_gives (noOperator : kind ≠ .operator)
    (ends : NumberEnd kind number rest lexeme outcome) :
    (closeNumber kind number.length rest).Gives options (number ++ rest) lexeme outcome := by
  cases ends with
  | @word word rest starts joins =>
    obtain ⟨c, next, start⟩ := starts
    obtain ⟨chars, rfl⟩ := List.head?_eq_some_iff.mp next
    obtain ⟨wordChars, stops⟩ := Longest.run_iff.mp joins
    refine ⟨.error .illegalIdentifier, rest, by simp, ?_, by simp, rfl⟩
    have others : IsWordChars chars := fun d member => wordChars d (by simp [member])
    rw [List.cons_append, closeNumber_word kind _ start others stops, List.length_append]
  | token noWord =>
    refine ⟨.token kind, rest, rfl, closeNumber_stops kind _ noWord, ?_, rfl⟩
    intro same
    exact noOperator (Finding.token.inj same)

/-- What goes on with no number at all goes on with none that has its exponent. -/
theorem stopsNumber_of_stops {next : Option Char} (noNumber : Stops isNumberChar next)
    (noExponent : ∀ c ∈ next, ¬ (c = 'e' ∨ c = 'E')) : StopsNumber number next := by
  intro c isNext
  obtain ⟨noDigit, noPoint⟩ := isNumberChar_eq_false.mp (noNumber c isNext)
  refine ⟨noDigit, ?_⟩
  rintro (point | mark)
  · exact absurd point noPoint
  · exact absurd (isExponentMark_iff.mp mark) (noExponent c isNext)

theorem isExponentMark_eq_false {c : Char} : isExponentMark c = false ↔ ¬ (c = 'e' ∨ c = 'E') := by
  rw [← isExponentMark_iff, Bool.not_eq_true]

theorem stops_of_noSecond {whole fraction : List Char} (noDigit : Stops Char.isDigit rest.head?)
    (noSecond : ¬ ('.' ∈ whole ++ '.' :: fraction ∧ rest.head? = some '.')) :
    Stops isNumberChar rest.head? := by
  intro c next
  refine isNumberChar_eq_false.mpr ⟨noDigit c next, ?_⟩
  rintro rfl
  exact noSecond ⟨by simp, next⟩

/-- A decimal with a point ends in it where nothing is behind the point. -/
theorem trailing_iff {whole fraction : List Char} (fractionDigits : IsDigits fraction) :
    ((sign ++ (whole ++ '.' :: fraction)).getLast? = some '.' ∧
        1 < (sign ++ (whole ++ '.' :: fraction)).length) ↔
      fraction = [] ∧ sign ++ whole ≠ [] := by
  by_cases ending : fraction = []
  · subst ending
    rw [← List.append_assoc, List.getLast?_concat, List.length_append, ← List.length_pos_iff]
    simp
  · have front : sign ++ (whole ++ '.' :: fraction) = (sign ++ (whole ++ ['.'])) ++ fraction := by
      simp
    have last : (sign ++ (whole ++ '.' :: fraction)).getLast? ≠ some '.' :=
      front ▸ getLast?_ne_point fractionDigits ending
    exact iff_of_false (fun trailing => last trailing.1) (fun both => ending both.1)

theorem gives_secondPoint {others run : List Char}
    (parts : NumberParts text sign decimal ('.' :: others)) (begins : beginsNumber text = true)
    (pointed : '.' ∈ decimal) (split : decimal ++ '.' :: others = run ++ rest)
    (joins : Longest (fun text => ∀ c ∈ text, isNumberChar c = true) run rest) :
    ∃ reading, readNumber text = some reading ∧ reading.Gives options text (sign ++ run)
      (malformed "multiple decimal points" (sign ++ run)) := by
  obtain ⟨numberChars, stops⟩ := Longest.run_iff.mp joins
  have unsigned := readNumber_unsigned parts.isMinus (parts.beginsNumber_iff.mp begins)
  rw [← parts.split] at unsigned
  refine ⟨_, unsigned, .error (.number .secondPoint), rest,
    by rw [parts.split, split, List.append_assoc], ?_, by simp, rfl⟩
  rcases cases_longest_decimal parts.isDecimal with
    ⟨digits, _⟩ | ⟨whole, fraction, rfl, wholeDigits, fractionDigits, noDigit⟩
  · exact absurd pointed (point_notMem digits)
  · have taken : runLength isNumberChar (whole ++ '.' :: fraction ++ '.' :: others) = run.length :=
      split ▸ Stops.runLength_append numberChars stops
    have read := Mantissa.read_pointed wholeDigits fractionDigits noDigit
    rw [List.append_assoc, List.cons_append] at taken ⊢
    simp [readUnsigned, read, taken]

section Exponent

variable {mark : Char} {exponentSign : List Char} (isMinus : IsMinus sign)
  (isMantissa : IsMantissa decimal) (isMark : mark = 'e' ∨ mark = 'E')

include isMinus isMantissa isMark

theorem gives_exponent {digits : List Char}
    (isSign : exponentSign = signAhead ['+', '-'] (exponentSign ++ (digits ++ rest)))
    (nonempty : digits ≠ []) (isExponent : Longest IsDigits digits rest)
    (ends : NumberEnd .double (sign ++ (decimal ++ mark :: (exponentSign ++ digits))) rest lexeme
      outcome) :
    ∃ reading,
      readNumber (sign ++ (decimal ++ mark :: (exponentSign ++ (digits ++ rest)))) = some reading ∧
      reading.Gives options (sign ++ (decimal ++ mark :: (exponentSign ++ (digits ++ rest)))) lexeme
        outcome := by
  obtain ⟨allDigits, stops⟩ := Longest.run_iff.mp isExponent
  have signed : IsExponentSign exponentSign := isSign ▸ isExponentSign_signAhead
  have gives := @closeNumber_gives options _ _ _ _ _ (by simp) ends
  refine ⟨_, readNumber_exponent _ isMinus isMantissa (isExponentMark_iff.mpr isMark), ?_⟩
  rw [readExponent_digits _ signed allDigits nonempty stops]
  simpa [Nat.add_assoc, Nat.add_comm 1, Nat.add_left_comm 1] using gives

theorem gives_missingExponent {word : List Char}
    (isSign : exponentSign = signAhead ['+', '-'] (exponentSign ++ (word ++ rest)))
    (noDigit : Stops Char.isDigit (word ++ rest).head?) (joins : Longest IsWordChars word rest) :
    ∃ reading,
      readNumber (sign ++ (decimal ++ mark :: (exponentSign ++ (word ++ rest)))) = some reading ∧
      reading.Gives options (sign ++ (decimal ++ mark :: (exponentSign ++ (word ++ rest))))
        (sign ++ (decimal ++ mark :: (exponentSign ++ word)))
        (malformed "missing exponent value"
          (sign ++ (decimal ++ mark :: (exponentSign ++ word)))) := by
  obtain ⟨chars, stops⟩ := Longest.run_iff.mp joins
  have signed : IsExponentSign exponentSign := isSign ▸ isExponentSign_signAhead
  refine ⟨_, readNumber_exponent _ isMinus isMantissa (isExponentMark_iff.mpr isMark),
    .error (.number .missingExponent), rest, by simp, ?_, by simp, rfl⟩
  rw [readExponent_missing _ signed chars ?_ stops ?_]
  · simp only [List.length_append, List.length_cons, Reading.mk.injEq, true_and]
    omega
  · intro c first
    obtain ⟨others, rfl⟩ := List.head?_eq_some_iff.mp first
    exact noDigit c rfl
  · rintro rfl rfl c next sign
    refine notMem_of_signAhead_eq_nil isSign.symm c next ?_
    simpa using sign

end Exponent

section Complete

variable (noExponent : ∀ c ∈ rest.head?, ¬ (c = 'e' ∨ c = 'E'))

include noExponent

/-- With no second point and no exponent behind it, a decimal with a point is all of the number. -/
theorem readNumber_pointed {whole fraction : List Char}
    (parts : NumberParts text sign (whole ++ '.' :: fraction) rest)
    (wholeDigits : IsDigits whole) (fractionDigits : IsDigits fraction)
    (noDigit : Stops Char.isDigit rest.head?)
    (noSecond : ¬ ('.' ∈ whole ++ '.' :: fraction ∧ rest.head? = some '.')) :
    readNumber text =
      some (if fraction = [] ∧ sign ++ whole ≠ [] then
        { finding := .error (.number .trailingPoint), length := (sign ++ (whole ++ ['.'])).length }
      else
        closeNumber .double (sign ++ (whole ++ '.' :: fraction)).length rest) := by
  rw [parts.split, List.append_assoc, List.cons_append]
  exact readNumber_fraction parts.isMinus wholeDigits fractionDigits
    (stops_of_noSecond noDigit noSecond)
    fun c next => isExponentMark_eq_false.mpr (noExponent c next)

variable (parts : NumberParts text sign decimal rest) (nonempty : decimal ≠ [])
  (noSecond : ¬ ('.' ∈ decimal ∧ rest.head? = some '.'))

include parts nonempty noSecond

theorem gives_trailingPoint
    (trailing : (sign ++ decimal).getLast? = some '.' ∧ 1 < (sign ++ decimal).length) :
    ∃ reading, readNumber text = some reading ∧ reading.Gives options text (sign ++ decimal)
      (malformed "trailing decimal point" (sign ++ decimal)) := by
  rcases cases_longest_decimal parts.isDecimal with
    ⟨digits, _⟩ | ⟨whole, fraction, rfl, wholeDigits, fractionDigits, noDigit⟩
  · exact absurd trailing.1 (getLast?_ne_point digits nonempty)
  · have read := readNumber_pointed noExponent parts wholeDigits fractionDigits noDigit noSecond
    have ending := (trailing_iff fractionDigits).mp trailing
    rw [if_pos ending] at read
    obtain ⟨rfl, _⟩ := ending
    exact ⟨_, read, .error (.number .trailingPoint), rest, by rw [parts.split, ← List.append_assoc],
      rfl, by simp, rfl⟩

theorem gives_plain
    (noTrailing : ¬ ((sign ++ decimal).getLast? = some '.' ∧ 1 < (sign ++ decimal).length))
    (ends : NumberEnd (if '.' ∈ decimal then .double else .integer) (sign ++ decimal) rest lexeme
      outcome) :
    ∃ reading, readNumber text = some reading ∧ reading.Gives options text lexeme outcome := by
  have split : text = (sign ++ decimal) ++ rest := by rw [parts.split, List.append_assoc]
  rcases cases_longest_decimal parts.isDecimal with
    ⟨digits, noNumber⟩ | ⟨whole, fraction, rfl, wholeDigits, fractionDigits, noDigit⟩
  · rw [if_neg (point_notMem digits)] at ends
    have isInteger : IsInteger (sign ++ decimal) :=
      ⟨sign, decimal, parts.isMinus, digits, nonempty, rfl⟩
    rw [split]
    exact ⟨_, readNumber_integer isInteger (stopsNumber_of_stops noNumber noExponent),
      closeNumber_gives (by simp) ends⟩
  · have read := readNumber_pointed noExponent parts wholeDigits fractionDigits noDigit noSecond
    rw [if_neg (mt (trailing_iff fractionDigits).mpr noTrailing)] at read
    rw [if_pos (by simp)] at ends
    refine ⟨_, read, ?_⟩
    rw [split]
    exact closeNumber_gives (by simp) ends

end Complete

/-- A number of the rule is read as the rule says. -/
theorem readNumber_gives (parts : NumberParts text sign decimal rest)
    (begins : beginsNumber text = true) (rule : NumberRule sign decimal rest lexeme outcome) :
    ∃ reading, readNumber text = some reading ∧ reading.Gives options text lexeme outcome := by
  have nonempty := parts.decimal_ne_nil begins
  have isMantissa := isMantissa_of_isDecimal parts.isDecimal.member nonempty
  have isMinus := parts.isMinus
  cases rule with
  | secondPoint pointed split joins => exact gives_secondPoint parts begins pointed split joins
  | exponent isMark isSign someDigits isExponent ends =>
    rw [parts.split]
    exact gives_exponent isMinus isMantissa isMark isSign someDigits isExponent ends
  | missingExponent isMark isSign noDigit joins =>
    rw [parts.split]
    exact gives_missingExponent isMinus isMantissa isMark isSign noDigit joins
  | trailingPoint noSecond noExponent trailing =>
    exact gives_trailingPoint noExponent parts nonempty noSecond trailing
  | plain noSecond noExponent noTrailing ends =>
    exact gives_plain noExponent parts nonempty noSecond noTrailing ends

theorem readNumber_of_not_begins (absent : beginsNumber text = false) : readNumber text = none := by
  obtain ⟨sign, decimal, rest, parts⟩ := exists_numberParts text
  have stops : Stops isNumberChar (decimal ++ rest).head? := by
    intro c next
    by_contra number
    rw [parts.beginsNumber_iff.mpr ⟨c, next, by simpa using number⟩] at absent
    cases absent
  have isMinus := parts.isMinus
  have isSign := parts.isSign
  obtain rfl := parts.split
  refine Scanner.readNumber_declines isMinus ?_ stops
  rintro rfl
  exact notMem_of_signAhead_eq_nil isSign.symm

end Reading

/-! ## Scanning by the rule -/

namespace Scanner

/-- The scanner of numbers declines, changing nothing, exactly where the text ahead begins no
number. Elsewhere the rule has a lexeme and an outcome for the text, and the lexeme is passed and
the outcome recorded. -/
theorem number_rule {options : LexingOptions} {source : String} {state : LexingState}
    {text : List Char} (reached : AtLexeme options source state)
    (ahead : state.cursor.remaining = .ok text) :
    (beginsNumber text = false →
      Answers options (source.length + 1) .number state (false, state)) ∧
    (beginsNumber text = true →
      (∃ sign decimal rest lexeme outcome,
        NumberParts text sign decimal rest ∧ NumberRule sign decimal rest lexeme outcome) ∧
      ∀ sign decimal rest lexeme outcome,
        NumberParts text sign decimal rest → NumberRule sign decimal rest lexeme outcome →
          Answers options (source.length + 1) .number state
            (true, state.recorded lexeme outcome)) := by
  obtain ⟨faces, nonempty⟩ := reached.faces ahead
  refine ⟨?_, ?_⟩
  · intro absent
    exact answers_of_declined faces nonempty (congrArg Except.ok (readNumber_of_not_begins absent))
  · intro begins
    refine ⟨?_, ?_⟩
    · obtain ⟨sign, decimal, rest, parts⟩ := exists_numberParts text
      obtain ⟨lexeme, outcome, rule⟩ := exists_numberRule sign decimal rest
      exact ⟨sign, decimal, rest, lexeme, outcome, parts, rule⟩
    · intro sign decimal rest lexeme outcome parts rule
      obtain ⟨reading, read, gives⟩ := readNumber_gives parts begins rule
      exact answers_of_gives faces nonempty (congrArg Except.ok read) gives

/-- A sign and a word where the digits of an exponent should be. -/
theorem number_rule_missingExponent :
    ∃ state, AtLexeme {} " -5e+x" state ∧ state.cursor.remaining = .ok "-5e+x".toList ∧
      Answers {} 7 .number state
        (true,
          state.recorded "-5e+x".toList (malformed "missing exponent value" "-5e+x".toList)) := by
  obtain ⟨state, reached, ahead⟩ :=
    @exists_atLexeme " -5e+x" "-5e+x".toList {} (by decide) [' '] rfl
      (forall_mem_of_all (by decide)) ⟨'-', rfl, rfl⟩
  have isDecimal : Longest IsDecimal ['5'] ['e', '+', 'x'] := by
    refine Longest.of_not_longer (.whole (forall_mem_of_all (by decide))) ?_
    intro c more leads longer
    obtain rfl : c = 'e' := (List.cons_prefix_cons.mp leads).1
    exact absurd (longer.numberChars 'e' (by simp)) (by decide)
  have parts : NumberParts "-5e+x".toList ['-'] ['5'] ['e', '+', 'x'] := ⟨rfl, rfl, isDecimal⟩
  have joins : Longest IsWordChars ['x'] [] :=
    Longest.run_iff.mpr ⟨forall_mem_of_all (by decide), Stops.none⟩
  have rule : NumberRule ['-'] ['5'] ['e', '+', 'x'] "-5e+x".toList _ :=
    @NumberRule.missingExponent ['-'] ['5'] 'e' ['+'] ['x'] [] (.inl rfl) rfl
      (Stops.some_iff.mpr rfl) joins
  exact ⟨state, reached, ahead, ((number_rule reached ahead).2 (by decide)).2 _ _ _ _ _ parts rule⟩

end Scanner

end ScriptLexer
