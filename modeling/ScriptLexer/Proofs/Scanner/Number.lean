import ScriptLexer.Proofs.Grammar.Number.Totality
import ScriptLexer.Proofs.Scanner.Basic

/-!
# Scanning numbers

The loop over a number follows the grammar part by part: digits, a point, an exponent. It ends in
front of the first character that goes on with none of them, and what it has seen by then decides
what is recorded. A minus sign without a number behind it is passed and then gone back over.
-/
namespace ScriptLexer

open Grammar

namespace Scanner

variable {options : LexingOptions} {state : LexingState} {cursor : Cursor} {c : Char}
  {text rest lexeme more : List Char} {size : Nat} {flaw : Option NumberFlaw}

/-- A sign is passed where it stands, and nothing else is. -/
theorem passSign_yields {signs sign : List Char} (faces : cursor.Faces size (sign ++ text))
    (isSign : sign = [] ∨ ∃ c ∈ signs, sign = [c])
    (unsigned : sign = [] → ∀ c ∈ text.head?, c ∉ signs) (noMark : endMark ∉ signs) :
    Yields size (passSign signs cursor) (cursor.past sign) := by
  unfold passSign
  rcases isSign with rfl | ⟨c, listed, rfl⟩
  · obtain ⟨c, looked, other⟩ := faces.look_satisfies noMark (unsigned rfl)
    rw [Cursor.past_nil, looked, ok_bind, if_neg other]
    exact .ok size cursor
  · rw [faces.look_head, ok_bind, if_pos listed]
    exact faces.advance

/-! ## The loop -/

/-- From the cursor on, with a point seen or not, the loop passes `more` of the text and comes to an
end. -/
structure Reaches (before : Bool × Bool) (text more : List Char) (after : Bool × Bool)
    (flaw : Option NumberFlaw) : Prop where
  yields : ∀ {cursor : Cursor} {size budget : Nat}, cursor.Faces size text → text.length < budget →
    Yields size (takeTurns numberTurn budget ⟨cursor, before.1, before.2⟩)
      (⟨cursor.past more, after.1, after.2⟩, flaw)

namespace Reaches

variable {before middle after : Bool × Bool}

/-- A turn passes one character. -/
theorem cons
    (turn : ∀ {cursor : Cursor} {size : Nat}, cursor.Faces size (c :: rest) →
      Yields size (numberTurn ⟨cursor, before.1, before.2⟩)
        (.more ⟨cursor.past [c], middle.1, middle.2⟩))
    (later : Reaches middle rest more after flaw) :
    Reaches before (c :: rest) (c :: more) after flaw := by
  constructor
  intro cursor size budget faces enough
  refine @takeTurns_more _ _ _ _ _ _ _ _ [c] rest (by simp) enough (turn faces) ?_
  intro fewer enough
  have looped := later.yields faces.past_one enough
  rwa [Cursor.past_past] at looped

/-- A turn is the last. -/
theorem last
    (turn : ∀ {cursor : Cursor} {size : Nat}, cursor.Faces size text →
      Yields size (numberTurn ⟨cursor, before.1, before.2⟩)
        (.done (⟨cursor.past more, after.1, after.2⟩, flaw))) :
    Reaches before text more after flaw := by
  constructor
  intro cursor size budget faces enough
  exact takeTurns_done (turn faces) (by omega)

theorem digits {digits : List Char} (allDigits : IsDigits digits)
    (later : Reaches before rest more after flaw) :
    Reaches before (digits ++ rest) (digits ++ more) after flaw := by
  induction digits with
  | nil => exact later
  | cons c others ih =>
    refine cons ?_ (ih fun d member => allDigits d (List.mem_cons_of_mem c member))
    intro cursor size faces
    rw [numberTurn, faces.look_head, ok_bind, if_pos (allDigits c List.mem_cons_self)]
    exact faces.advance.bind (.ok size _)

theorem point {double : Bool} (later : Reaches (true, true) rest more after flaw) :
    Reaches (false, double) ('.' :: rest) ('.' :: more) after flaw := by
  refine cons ?_ later
  intro cursor size faces
  rw [numberTurn, faces.look_head, ok_bind, if_neg (by decide), if_pos rfl]
  exact faces.advance.bind (.ok size _)

/-- A second point takes all digits and points along. -/
theorem secondPoint {double : Bool} (numberChars : ∀ c ∈ more, isNumberChar c = true)
    (stops : Stops isNumberChar rest.head?) :
    Reaches (true, double) ('.' :: (more ++ rest)) ('.' :: more) (true, double)
      (some .secondPoint) := by
  refine last ?_
  intro cursor size faces
  have run : ∀ c ∈ '.' :: more, isNumberChar c = true := by
    intro c member
    rcases List.mem_cons.mp member with rfl | later
    · decide
    · exact numberChars c later
  have ahead : cursor.Faces size ('.' :: more ++ rest) := faces
  rw [numberTurn, faces.look_head, ok_bind, if_neg (by decide), if_pos rfl]
  exact (ahead.eatWhile run stops).bind (.ok size _)

/-- A mantissa is passed on the way to whatever stands behind it. -/
theorem mantissa {mantissa : List Char} (isMantissa : IsMantissa mantissa) :
    ∃ pointed, ∀ {rest more : List Char} {after : Bool × Bool} {flaw : Option NumberFlaw},
      Reaches (pointed, pointed) rest more after flaw →
        Reaches (false, false) (mantissa ++ rest) (mantissa ++ more) after flaw := by
  cases isMantissa with
  | whole allDigits _ => exact ⟨false, digits allDigits⟩
  | pointed wholeDigits fractionDigits =>
    refine ⟨true, ?_⟩
    intro rest more after flaw later
    have reached := digits wholeDigits (@point _ _ _ _ false (later.digits fractionDigits))
    simpa only [List.append_assoc, List.cons_append] using reached

/-- What goes on with no number ends the loop. -/
theorem ended (stops : Stops isNumberChar rest.head?) (noMark : Stops isExponentMark rest.head?) :
    Reaches before rest [] before none := by
  refine last ?_
  intro cursor size faces
  obtain ⟨c, looked, other, noMark⟩ :=
    @Cursor.Faces.look_satisfies _ _ _ (fun c => isNumberChar c = false ∧ isExponentMark c = false)
      faces (by decide) fun c next => ⟨stops c next, noMark c next⟩
  obtain ⟨noDigit, noPoint⟩ := isNumberChar_eq_false.mp other
  rw [Cursor.past_nil, numberTurn, looked, ok_bind, if_neg (by simp [noDigit]), if_neg noPoint,
    if_neg (by simp [noMark])]
  exact .ok size _

/-- Behind its mark and its sign an exponent ends the loop, whatever it comes to. -/
theorem exponent {pointed double : Bool} {mark : Char} {exponentSign : List Char}
    (isMark : isExponentMark mark = true) (isSign : IsExponentSign exponentSign)
    (unsigned : exponentSign = [] → ∀ c ∈ text.head?, ¬ (c = '+' ∨ c = '-'))
    (reads : ∀ {cursor : Cursor} {size : Nat}, cursor.Faces size text →
      Yields size (exponentDigits ⟨cursor, pointed, double⟩)
        (⟨cursor.past more, pointed, true⟩, flaw)) :
    Reaches (pointed, double) (mark :: (exponentSign ++ text)) (mark :: (exponentSign ++ more))
      (pointed, true) flaw := by
  refine last ?_
  intro cursor size faces
  obtain ⟨noDigit, noPoint⟩ := isNumberChar_eq_false.mp (isNumberChar_of_isExponentMark isMark)
  have signed : Yields size (passSign ['+', '-'] (cursor.past [mark]))
      ((cursor.past [mark]).past exponentSign) := by
    refine passSign_yields faces.past_one ?_ (by simpa using unsigned) (by decide)
    rcases isSign with rfl | plus | minus
    · exact .inl rfl
    · exact .inr ⟨'+', by simp, plus⟩
    · exact .inr ⟨'-', by simp, minus⟩
  have digits := reads faces.past_one.past
  rw [Cursor.past_past, Cursor.past_past] at digits
  rw [numberTurn, faces.look_head, ok_bind, if_neg (by simp [noDigit]), if_neg noPoint,
    if_pos isMark]
  refine Yields.bind (faces.advance.bind (signed.bind ?_)) (.ok size _)
  rw [Cursor.past_past]
  exact digits

end Reaches

/-! ## Exponents -/

theorem exponentDigits_digits {digits : List Char} {pointed double : Bool}
    (faces : cursor.Faces size (digits ++ rest)) (allDigits : IsDigits digits)
    (nonempty : digits ≠ []) (stops : Stops Char.isDigit rest.head?) :
    Yields size (exponentDigits ⟨cursor, pointed, double⟩)
      (⟨cursor.past digits, pointed, true⟩, none) := by
  obtain ⟨c, others, rfl⟩ := List.exists_cons_of_ne_nil nonempty
  unfold exponentDigits
  rw [faces.look_head, ok_bind, if_pos (allDigits c List.mem_cons_self)]
  exact (faces.eatWhile allDigits stops).bind (.ok size _)

theorem exponentDigits_missing {word : List Char} {pointed double : Bool}
    (faces : cursor.Faces size (word ++ rest)) (chars : IsWordChars word)
    (noDigit : Stops Char.isDigit word.head?) (stops : Stops isWordChar rest.head?) :
    Yields size (exponentDigits ⟨cursor, pointed, double⟩)
      (⟨cursor.past word, pointed, true⟩, some .missingExponent) := by
  have stopsDigit : Stops Char.isDigit (word ++ rest).head? := by
    cases word with
    | cons c others => exact noDigit
    | nil =>
      intro c next
      have noWord := stops c next
      by_contra digit
      rw [isWordChar_of_isDigit (by simpa using digit)] at noWord
      cases noWord
  obtain ⟨c, looked, other⟩ :=
    @Cursor.Faces.look_satisfies _ _ _ (fun c => c.isDigit = false) faces (by decide) stopsDigit
  unfold exponentDigits
  rw [looked, ok_bind, if_neg (by simp [other])]
  exact (faces.eatWhile chars stops).bind (.ok size _)

/-! ## Numbers of the grammar -/

/-- The lexeme is a sign, or none, and what the loop passes behind it. -/
def Passed (lexeme rest : List Char) (double : Bool) (flaw : Option NumberFlaw) : Prop :=
  ∃ sign more pointed, lexeme = sign ++ more ∧ IsMinus sign ∧
    (∃ c ∈ (more ++ rest).head?, isNumberChar c = true) ∧
    Reaches (false, false) (more ++ rest) more (pointed, double) flaw

theorem passed_integer (isInteger : IsInteger lexeme) (stops : StopsNumber lexeme rest.head?) :
    Passed lexeme rest false none := by
  have noExponent := any_mark_integer isInteger
  have ended : Reaches (false, false) rest [] (false, false) none :=
    .ended (stops.stopsNumberChar noExponent) (stops.stopsMark noExponent)
  obtain ⟨sign, digits, isMinus, allDigits, nonempty, rfl⟩ := isInteger
  have reached := ended.digits allDigits
  rw [List.append_nil] at reached
  exact ⟨sign, digits, false, rfl, isMinus, (IsMantissa.whole allDigits nonempty).begins rest,
    reached⟩

/-- Digits, a point and digits, with nothing behind that goes on with a number. -/
theorem passed_fraction {sign whole fraction : List Char} (isMinus : IsMinus sign)
    (wholeDigits : IsDigits whole) (fractionDigits : IsDigits fraction)
    (stops : Stops isNumberChar rest.head?) (noMark : Stops isExponentMark rest.head?) :
    Passed (sign ++ (whole ++ '.' :: fraction)) rest true none := by
  have ended : Reaches (true, true) rest [] (true, true) none := .ended stops noMark
  have reached := (@Reaches.point _ _ _ _ false (ended.digits fractionDigits)).digits wholeDigits
  rw [List.append_nil] at reached
  refine ⟨sign, whole ++ '.' :: fraction, true, rfl, isMinus,
    (IsMantissa.pointed wholeDigits fractionDigits).begins rest, ?_⟩
  rwa [List.append_assoc, List.cons_append]

theorem passed_exponent {sign mantissa exponentSign digits : List Char} {mark : Char}
    (isMinus : IsMinus sign) (isMantissa : IsMantissa mantissa)
    (isMark : isExponentMark mark = true) (isSign : IsExponentSign exponentSign)
    (unsigned : exponentSign = [] → ∀ c ∈ (digits ++ rest).head?, ¬ (c = '+' ∨ c = '-'))
    (reads : ∀ {cursor : Cursor} {size : Nat} {pointed double : Bool},
      cursor.Faces size (digits ++ rest) →
        Yields size (exponentDigits ⟨cursor, pointed, double⟩)
          (⟨cursor.past digits, pointed, true⟩, flaw)) :
    Passed (sign ++ (mantissa ++ mark :: (exponentSign ++ digits))) rest true flaw := by
  obtain ⟨pointed, later⟩ := Reaches.mantissa isMantissa
  have reached := later
    (@Reaches.exponent _ _ flaw pointed pointed mark exponentSign isMark isSign unsigned reads)
  have same : mantissa ++ mark :: (exponentSign ++ digits) ++ rest =
      mantissa ++ mark :: (exponentSign ++ (digits ++ rest)) := by simp
  refine ⟨sign, _, pointed, rfl, isMinus, ?_, ?_⟩
  · rw [same]
    exact isMantissa.begins _
  · rwa [same]

theorem passed_double (isDouble : IsDouble lexeme) (stops : StopsNumber lexeme rest.head?) :
    Passed lexeme rest true none := by
  cases isDouble with
  | point =>
    have noExponent : ['.'].any isExponentMark = false := by decide
    have noDigits : IsDigits [] := by simp [IsDigits]
    exact passed_fraction (.inl rfl) noDigits noDigits (stops.stopsNumberChar noExponent)
      (stops.stopsMark noExponent)
  | @fraction sign whole digits isMinus wholeDigits allDigits _ =>
    have noExponent : (sign ++ (whole ++ '.' :: digits)).any isExponentMark = false := by
      rw [List.any_append, any_mark_minus isMinus,
        any_mark_mantissa (.pointed wholeDigits allDigits)]
      rfl
    exact passed_fraction isMinus wholeDigits allDigits (stops.stopsNumberChar noExponent)
      (stops.stopsMark noExponent)
  | exponent isMinus isMantissa isMark isSign allDigits nonempty =>
    refine passed_exponent isMinus isMantissa isMark isSign ?_ ?_
    · intro _ c next
      obtain ⟨first, others, rfl⟩ := List.exists_cons_of_ne_nil nonempty
      obtain rfl : first = c := by simpa using next
      exact not_sign_of_isWordChar (isWordChar_of_isDigit (allDigits first List.mem_cons_self))
    · exact fun faces => exponentDigits_digits faces allDigits nonempty stops.stopsDigit

/-- What the loop comes to for a spoiled number. A point at the end does not stop it from going
well. -/
theorem passed_malformed {flaw : NumberFlaw} (stands : Stands (.error (.number flaw)) lexeme rest) :
    Passed lexeme rest true (if flaw = .trailingPoint then none else some flaw) := by
  obtain ⟨form, ends⟩ := stands
  cases form with
  | @secondPoint sign whole fraction more isMinus wholeDigits fractionDigits numberChars =>
    have second : Reaches (true, true) ('.' :: (more ++ rest)) ('.' :: more) (true, true)
      (some .secondPoint) := .secondPoint numberChars ends
    have reached := (@Reaches.point _ _ _ _ false (second.digits fractionDigits)).digits wholeDigits
    have same : whole ++ '.' :: (fraction ++ '.' :: more) ++ rest =
        whole ++ '.' :: (fraction ++ '.' :: (more ++ rest)) := by simp
    refine ⟨sign, _, true, rfl, isMinus, ?_, ?_⟩
    · have begins := (IsMantissa.pointed wholeDigits fractionDigits).begins ('.' :: (more ++ rest))
      rw [same]
      rwa [List.append_assoc, List.cons_append] at begins
    · rw [same]
      exact reached
  | @missingExponent sign mantissa exponentSign word mark isMinus isMantissa isMark isSign chars
      noDigit =>
    refine passed_exponent isMinus isMantissa isMark isSign ?_ ?_
    · rintro rfl c next signed
      cases word with
      | nil =>
        -- The lexeme is the mantissa with its mark, so the mark is not among its other characters.
        have marked := (ends c next).2 signed
        rw [List.append_nil, ← List.append_assoc, List.dropLast_concat, List.any_append,
          any_mark_minus isMinus, any_mark_mantissa isMantissa] at marked
        cases marked
      | cons first others =>
        obtain rfl : first = c := by simpa using next
        exact not_sign_of_isWordChar (chars first List.mem_cons_self) signed
    · exact fun faces => exponentDigits_missing faces chars noDigit fun c next => (ends c next).1
  | trailingPoint isMinus wholeDigits several =>
    have noDigits : IsDigits [] := by simp [IsDigits]
    exact passed_fraction isMinus wholeDigits noDigits (fun c next => (ends c next).1)
      (fun c next => (ends c next).2)

/-! ## What is recorded of a number -/

section Settled

variable {pointed double : Bool}

theorem closeNumeral_trailing (faces : state.cursor.Faces size (lexeme ++ rest))
    (long : 1 < Text.byteLength lexeme) (ending : lexeme.getLast? = some '.') :
    closeNumeral ⟨state.cursor.past lexeme, pointed, double⟩ state.cursor.place state =
      .ok (state.behind options (.error (.number .trailingPoint)) lexeme) := by
  rw [closeNumeral, faces.textSince, ok_bind, if_pos ⟨long, ending⟩]
  exact LexingState.closeError_behind faces _

theorem closeNumeral_token (faces : state.cursor.Faces size (lexeme ++ rest))
    (sound : ¬ (1 < Text.byteLength lexeme ∧ lexeme.getLast? = some '.'))
    (stops : Stops isWordStart rest.head?) :
    closeNumeral ⟨state.cursor.past lexeme, pointed, double⟩ state.cursor.place state =
      .ok (state.behind options (.token (if double then .double else .integer)) lexeme) := by
  obtain ⟨c, looked, other⟩ :=
    @Cursor.Faces.look_satisfies _ _ _ (fun c => isWordStart c = false) faces.past (by decide) stops
  rw [closeNumeral, faces.textSince, ok_bind, if_neg sound, looked, ok_bind,
    if_neg (by simp [other])]
  refine LexingState.closeToken_behind faces ?_
  cases double <;> simp

theorem closeNumeral_word {word : List Char}
    (faces : state.cursor.Faces size (lexeme ++ c :: word ++ rest))
    (sound : ¬ (1 < Text.byteLength lexeme ∧ lexeme.getLast? = some '.'))
    (start : isWordStart c = true) (chars : IsWordChars word)
    (stops : Stops isWordChar rest.head?) :
    Yields size (closeNumeral ⟨state.cursor.past lexeme, pointed, double⟩ state.cursor.place state)
      (state.behind options (.error .illegalIdentifier) (lexeme ++ c :: word)) := by
  have ahead : state.cursor.Faces size (lexeme ++ (c :: word ++ rest)) := by
    rwa [← List.append_assoc]
  have number := ahead.past
  rw [closeNumeral, ahead.textSince, ok_bind, if_neg sound, number.look_head, ok_bind, if_pos start]
  refine (number.eatWhile (isWordChars_cons start chars) stops).bind ?_
  rw [Cursor.past_past]
  exact .inl (LexingState.closeError_behind faces _)

end Settled

/-- A sound number ends in no point unless the point is all of it. -/
theorem sound_of_isNumber (isNumber : IsInteger lexeme ∨ IsDouble lexeme) :
    ¬ (1 < Text.byteLength lexeme ∧ lexeme.getLast? = some '.') := by
  rintro ⟨long, last⟩
  rcases isNumber with ⟨sign, digits, _, allDigits, nonempty, rfl⟩ | isDouble
  · exact getLast?_ne_point allDigits nonempty last
  · cases isDouble with
    | point => exact absurd long (by decide)
    | @fraction sign whole digits _ _ allDigits nonempty =>
      rw [show sign ++ (whole ++ '.' :: digits) =
        (sign ++ (whole ++ ['.'])) ++ digits by simp] at last
      exact getLast?_ne_point allDigits nonempty last
    | @exponent sign mantissa exponentSign digits mark _ _ _ _ allDigits nonempty =>
      rw [show sign ++ (mantissa ++ mark :: (exponentSign ++ digits)) =
        (sign ++ (mantissa ++ mark :: exponentSign)) ++ digits by simp] at last
      exact getLast?_ne_point allDigits nonempty last

theorem trailing_of_isMalformedNumber (malformed : IsMalformedNumber .trailingPoint lexeme) :
    1 < Text.byteLength lexeme ∧ lexeme.getLast? = some '.' := by
  cases malformed with
  | @trailingPoint sign whole _ _ several =>
    have positive := Text.byteLength_pos several
    have point : Text.byteLength ['.'] = 1 := rfl
    rw [← List.append_assoc, Text.byteLength_append, point]
    exact ⟨by omega, List.getLast?_concat⟩

/-! ## The scanner -/

/-- What the scanner does is what it makes of the end of its loop. -/
private theorem number_yields {double : Bool} {after : LexingState}
    (faces : state.cursor.Faces size (lexeme ++ rest)) (passed : Passed lexeme rest double flaw)
    (settled : ∀ pointed, Yields size
      (settle state.cursor.place state (⟨state.cursor.past lexeme, pointed, double⟩, flaw)) after) :
    Yields size (number state.cursor.place state) (true, after) := by
  obtain ⟨sign, more, pointed, rfl, isMinus, ⟨c, head, isNumber⟩, reaches⟩ := passed
  rw [List.append_assoc] at faces
  have noMinus : c ≠ '-' := by
    rintro rfl
    revert isNumber
    decide
  have signed : Yields size (passSign ['-'] state.cursor) (state.cursor.past sign) := by
    refine passSign_yields faces ?_ ?_ (by decide)
    · rcases isMinus with rfl | rfl
      · exact .inl rfl
      · exact .inr ⟨'-', by simp, rfl⟩
    · intro _ d next
      obtain rfl : c = d := Option.some.inj (head.symm.trans next)
      simpa using noMinus
  have inside := faces.past
  have reached := reaches.yields inside inside.length_lt_turns
  rw [Cursor.past_past] at reached
  obtain ⟨others, same⟩ := List.head?_eq_some_iff.mp head
  have ahead : (state.cursor.past sign).Faces size (c :: others) := same ▸ inside
  rw [number]
  refine signed.bind ?_
  rw [ahead.look_head, ok_bind, if_pos isNumber]
  exact reached.bind ((settled pointed).map _)

theorem number_scans {finding : Finding} (faces : state.cursor.Faces size (lexeme ++ rest))
    (stands : Stands finding lexeme rest) (numeral : finding.IsNumeral) :
    Yields size (number state.cursor.place state) (true, state.behind options finding lexeme) := by
  have form := stands.form
  have ends := stands.ends
  cases finding with
  | token kind =>
    cases kind with
    | integer =>
      refine number_yields faces (passed_integer form (stopsNumber_integer ends)) ?_
      exact fun _ => .inl (closeNumeral_token faces (sound_of_isNumber (.inl form)) fun c next =>
        (ends c next).2)
    | double =>
      refine number_yields faces (passed_double form (stopsNumber_double ends)) ?_
      exact fun _ => .inl (closeNumeral_token faces (sound_of_isNumber (.inr form)) fun c next =>
        (ends c next).2.1)
    | _ => exact absurd numeral id
  | openComment => exact absurd numeral id
  | error cause =>
    cases cause with
    | number flaw =>
      refine number_yields faces (passed_malformed stands) ?_
      intro pointed
      split
      case isTrue trailing =>
        subst trailing
        obtain ⟨long, ending⟩ := trailing_of_isMalformedNumber form
        exact .inl (closeNumeral_trailing faces long ending)
      case isFalse => exact .inl (LexingState.closeError_behind faces _)
    | illegalIdentifier =>
      obtain ⟨number, c, word, isNumber, start, chars, noMark, rfl⟩ := form
      have stops := @stopsNumber_word number word rest c start noMark
      have closed (pointed double : Bool) :=
        @closeNumeral_word options state c rest number size pointed double word faces
          (sound_of_isNumber isNumber) start chars ends
      rw [List.append_assoc] at faces
      rcases isNumber with isInteger | isDouble
      · exact number_yields faces (passed_integer isInteger stops) fun _ => closed _ _
      · exact number_yields faces (passed_double isDouble stops) fun _ => closed _ _
    | _ => exact absurd numeral id

/-- Reading ahead finds the same number. -/
theorem readNumber_numeral {finding : Finding} (stands : Stands finding lexeme rest)
    (numeral : finding.IsNumeral) :
    readNumber (lexeme ++ rest) = some { finding, length := lexeme.length } ∧
      finding.OfScanner := by
  cases finding with
  | token kind =>
    cases kind with
    | integer => exact ⟨readNumber_token (.inl ⟨rfl, stands.form⟩) stands.ends, trivial⟩
    | double => exact ⟨readNumber_token (.inr ⟨rfl, stands.form⟩) stands.ends, trivial⟩
    | _ => exact absurd numeral id
  | openComment => exact absurd numeral id
  | error cause =>
    cases cause with
    | number flaw =>
      exact ⟨readNumber_malformed stands,
        by simp [Finding.OfScanner, Cause.code, scannerCodes]⟩
    | illegalIdentifier =>
      exact ⟨readNumber_illegalIdentifier stands,
        by simp [Finding.OfScanner, Cause.code, scannerCodes]⟩
    | _ => exact absurd numeral id

theorem readNumber_declines {sign text : List Char} (isMinus : IsMinus sign)
    (unsigned : sign = [] → ∀ c ∈ text.head?, c ∉ ['-']) (stops : Stops isNumberChar text.head?) :
    readNumber (sign ++ text) = none := by
  rcases isMinus with rfl | rfl
  · cases text with
    | nil => rfl
    | cons c others =>
      have other : c ≠ '-' := by simpa using unsigned rfl c rfl
      simp [readNumber, other, Stops.some_iff.mp stops]
  · cases text with
    | nil => rfl
    | cons c others => simp [readNumber, Stops.some_iff.mp stops]

/-- A minus sign with no number behind it is gone back over. -/
theorem number_declines {sign : List Char} (faces : state.cursor.Faces size (sign ++ text))
    (signed : Yields size (passSign ['-'] state.cursor) (state.cursor.past sign))
    (stops : Stops isNumberChar text.head?) :
    Yields size (number state.cursor.place state) (false, state) := by
  obtain ⟨c, looked, other⟩ :=
    @Cursor.Faces.look_satisfies _ _ _ (fun c => isNumberChar c = false) faces.past (by decide)
      stops
  have back : (state.cursor.past sign).restore state.cursor.place = state.cursor :=
    Cursor.eq_of_place rfl rfl
  unfold number
  refine signed.bind ?_
  rw [looked, ok_bind, if_neg (by simp [other]), back]
  exact .ok size _

theorem tries_number {others : List Char} (faces : state.cursor.Faces size (c :: others)) :
    Tries options .number state size (c :: others) := by
  obtain ⟨sign, text, same, isMinus, unsigned⟩ : ∃ sign text, c :: others = sign ++ text ∧
      IsMinus sign ∧ (sign = [] → ∀ d ∈ text.head?, d ∉ ['-']) := by
    by_cases minus : c = '-'
    · exact ⟨['-'], others, by rw [minus]; rfl, .inr rfl, by simp⟩
    · exact ⟨[], c :: others, rfl, .inl rfl, by simpa using minus⟩
  rw [same] at faces ⊢
  by_cases begins : ∃ d ∈ text.head?, isNumberChar d = true
  · obtain ⟨finding, lexeme, rest, split, stands, numeral⟩ := exists_number isMinus begins
    rw [split] at faces ⊢
    obtain ⟨read, ofScanner⟩ := readNumber_numeral stands numeral
    exact .inr ⟨finding, lexeme, rest, rfl, stands.form.begins.ne_nil, ofScanner,
      number_scans faces stands numeral, .inl (congrArg Except.ok read)⟩
  · have stops : Stops isNumberChar text.head? := by
      intro d next
      by_contra number
      exact begins ⟨d, next, by simpa using number⟩
    have signed := passSign_yields faces (by simpa [IsMinus] using isMinus) unsigned (by decide)
    exact .inl ⟨number_declines faces signed stops,
      congrArg Except.ok (readNumber_declines isMinus unsigned stops)⟩

end Scanner

end ScriptLexer
