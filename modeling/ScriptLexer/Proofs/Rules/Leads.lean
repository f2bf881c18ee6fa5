import ScriptLexer.Proofs.Rules.Number

/-!
# Which family a text leads to

At most three characters decide which family takes the lexeme ahead. Some of them lead to two
families, and then the earlier one has it: `<` is an operator unless it opens a comment, and `-` is
one unless it begins a number. What leads to no family is one character that is reported.
-/
namespace ScriptLexer

open Grammar

/-- How a text begins that leads to the family. -/
def Family.leads : Family → List Char → Bool
  | newlines, text => text.head?.any (· == '\n')
  | comment, text => opening.isPrefixOf text
  | quoted, text => text.head?.any isQuote
  | number, text => beginsNumber text
  | word, text => text.head?.any isWordStart
  | operator, text =>
    text.head?.any (['+', '-', '*', '/', '%', '=', ':', '<', '>', '&', '|', '^', '~'].contains ·) ||
      ['!', '='].isPrefixOf text
  | punctuation, text => text.head?.any (['(', ')', '[', ']', '{', '}', ','].contains ·)

/-- The first family that the text leads to, in the order newlines, comments, strings, numbers,
words, operators, punctuation. -/
def familyAt (text : List Char) : Option Family := Family.all.find? (·.leads text)

/-! ## Leading to a family -/

namespace Family

variable {family : Family} {c : Char} {text rest : List Char}

/-- Three characters say as much as the whole text. -/
theorem leads_take (family : Family) (text : List Char) :
    family.leads (text.take 3) = family.leads text := by
  match text with
  | [] => rfl
  | [_] => rfl
  | [_, _] => rfl
  | a :: b :: c :: rest =>
    cases family with
    | number => by_cases minus : a = '-' <;> simp [leads, beginsNumber, minus]
    | _ => simp [leads, opening, List.isPrefixOf]

/-- A family whose lexemes never begin with a character is not led to by it. -/
theorem leads_of_not_opens (closed : family.opens c = false) (rest : List Char) :
    family.leads (c :: rest) = false := by
  cases family with
  | newlines => simpa [leads, opens] using closed
  | comment =>
    have other : c ≠ '<' := by simpa [opens] using closed
    simp [leads, opening, List.isPrefixOf, Ne.symm other]
  | quoted => simpa [leads, opens] using closed
  | number =>
    obtain ⟨noNumber, noMinus⟩ : isNumberChar c = false ∧ c ≠ '-' := by simpa [opens] using closed
    simp [leads, beginsNumber, noNumber, noMinus]
  | word => simpa [leads, opens] using closed
  | operator =>
    obtain ⟨noSign, noMark⟩ : c ∉ shortOperators ∧ c ≠ '!' := by simpa [opens] using closed
    have listed : ¬ c ∈ ['+', '-', '*', '/', '%', '=', ':', '<', '>', '&', '|', '^', '~'] := noSign
    simpa [leads, List.isPrefixOf, Ne.symm noMark] using listed
  | punctuation =>
    have notListed : c ∉ ScriptLexer.punctuation := by simpa [opens] using closed
    simp [ScriptLexer.punctuation] at notListed
    simp [leads, notListed]

theorem opens_of_leads (led : family.leads (c :: rest) = true) : family.opens c = true := by
  by_contra closed
  rw [leads_of_not_opens (by simpa using closed)] at led
  cases led

theorem readComment_ne_none (body : List Char) : readComment (opening ++ body) ≠ .ok none := by
  unfold opening
  simp only [List.cons_append, List.nil_append, readComment]
  split
  · cases commentEnd 0 3 body <;> simp [Except.map]
  · simp

theorem readComment_eq_none (apart : ¬ opening <+: text) : readComment text = .ok none := by
  refine readComment.eq_2 text ?_
  rintro body rfl
  exact apart ⟨body, rfl⟩

theorem leads_operator_iff : operator.leads (c :: rest) = true ↔
    c ∈ shortOperators ∨ c = '!' ∧ rest.head? = some '=' := by
  cases rest with
  | nil => simp [leads, shortOperators, List.isPrefixOf]
  | cons d rest => simp [leads, shortOperators, List.isPrefixOf, @eq_comm _ '!' c, @eq_comm _ '=' d]

theorem readOperator_eq_none_iff :
    readOperator (c :: rest) = none ↔ ¬ (c ∈ shortOperators ∨ c = '!' ∧ rest.head? = some '=') := by
  by_cases long : ∃ d ∈ rest.head?, (c, d) ∈ longOperators
  · obtain ⟨d, next, member⟩ := long
    obtain ⟨tail, rfl⟩ := List.head?_eq_some_iff.mp next
    have leading : ∀ signs ∈ longOperators,
        signs.1 ∈ shortOperators ∨ signs.1 = '!' ∧ signs.2 = '=' := by
      decide
    have led : c ∈ shortOperators ∨ c = '!' ∧ (d :: tail).head? = some '=' := by
      simpa using leading _ member
    rw [readOperator_long member]
    exact iff_of_false (by simp) (not_not_intro led)
  · have single : ∀ d ∈ rest.head?, (c, d) ∉ longOperators :=
      fun d next member => long ⟨d, next, member⟩
    have noUnequal : ¬ (c = '!' ∧ rest.head? = some '=') := by
      rintro ⟨rfl, next⟩
      exact single '=' next (by decide)
    rw [readOperator_short single]
    simp [noUnequal]

/-- A family declines exactly the texts that do not lead to it. The point is left out: it is a
punctuation sign as well, and a number before that. -/
theorem read_eq_none_iff (noPoint : family = punctuation → text.head? ≠ some '.') :
    family.read text = .ok none ↔ family.leads text = false := by
  cases family with
  | newlines =>
    cases text with
    | nil => simp [read, readNewlines, runLength, leads]
    | cons c rest =>
      by_cases lineBreak : c = '\n' <;> simp [read, readNewlines, runLength, leads, lineBreak]
  | comment =>
    by_cases opened : opening <+: text
    · obtain ⟨body, rfl⟩ := opened
      simp [read, readComment_ne_none, leads]
    · have declined : opening.isPrefixOf text = false := by
        rwa [← Bool.not_eq_true, List.isPrefixOf_iff_prefix]
      simp [read, readComment_eq_none opened, leads, declined]
  | quoted =>
    cases text with
    | nil => simp [read, readQuoted, leads]
    | cons c rest => cases quotes : isQuote c <;> simp [read, readQuoted, leads, quotes]
  | number =>
    cases begins : beginsNumber text with
    | false => simp [read, readNumber_of_not_begins begins, leads, begins]
    | true =>
      obtain ⟨sign, decimal, rest, parts⟩ := exists_numberParts text
      obtain ⟨lexeme, outcome, rule⟩ := exists_numberRule sign decimal rest
      obtain ⟨reading, reads, _⟩ := @readNumber_gives {} _ _ _ _ _ _ parts begins rule
      simp [read, reads, leads, begins]
  | word =>
    cases text with
    | nil => simp [read, readWord, leads]
    | cons c rest => cases start : isWordStart c <;> simp [read, readWord, leads, start]
  | operator =>
    cases text with
    | nil => simp [read, readOperator, leads, List.isPrefixOf]
    | cons c rest =>
      rw [← Bool.not_eq_true, leads_operator_iff, ← readOperator_eq_none_iff]
      simp [read]
  | punctuation =>
    cases text with
    | nil => simp [read, readPunctuation, leads]
    | cons c rest =>
      have other : c ≠ '.' := by simpa using noPoint rfl
      simp [read, readPunctuation, leads, ScriptLexer.punctuation, other]

theorem read_ne_none_of_leads (led : family.leads text = true) : family.read text ≠ .ok none := by
  rw [ne_eq, read_eq_none_iff, led]
  · simp
  · rintro rfl point
    obtain ⟨rest, rfl⟩ := List.head?_eq_some_iff.mp point
    simp [leads] at led

theorem read_eq_none_of_not_leads (noNumber : number.leads text = false)
    (apart : family.leads text = false) : family.read text = .ok none := by
  refine (read_eq_none_iff ?_).mpr apart
  rintro - point
  obtain ⟨rest, rfl⟩ := List.head?_eq_some_iff.mp point
  exact absurd noNumber (by simp [leads, beginsNumber, isNumberChar])

end Family

/-! ## The family of a lexeme -/

section FamilyAt

variable {family : Family} {c : Char} {text rest : List Char}

theorem familyAt_take (text : List Char) : familyAt (text.take 3) = familyAt text := by
  simp [familyAt, Family.leads_take]

theorem familyAt_of_leads (before : List Family) {later : List Family}
    (order : Family.all = before ++ family :: later)
    (declined : ∀ other ∈ before, other.leads text = false) (led : family.leads text = true) :
    familyAt text = some family := by
  have noneBefore : before.find? (·.leads text) = none := by
    rw [List.find?_eq_none]
    intro other member
    simp [declined other member]
  rw [familyAt, order, List.find?_append, noneBefore, Option.none_or, List.find?_cons, led]

theorem familyAt_of_opens (before : List Family) {later : List Family}
    (order : Family.all = before ++ family :: later)
    (closed : family.opens c = true → ∀ other ∈ before, other.opens c = false)
    (led : family.leads (c :: rest) = true) : familyAt (c :: rest) = some family := by
  refine familyAt_of_leads before order ?_ led
  intro other member
  exact Family.leads_of_not_opens (closed (Family.opens_of_leads led) other member) rest

theorem familyAt_comment (body : List Char) : familyAt (opening ++ body) = some .comment := rfl

theorem familyAt_quote {quote : Char} (quotes : isQuote quote = true) (rest : List Char) :
    familyAt (quote :: rest) = some .quoted :=
  familyAt_of_opens [.newlines, .comment] rfl Family.not_opens_quoted
    (by simpa [Family.leads] using quotes)

theorem familyAt_number (begins : beginsNumber (c :: rest) = true) :
    familyAt (c :: rest) = some .number :=
  familyAt_of_opens [.newlines, .comment, .quoted] rfl (Family.not_opens_early (by simp)) begins

theorem familyAt_word (start : isWordStart c = true) (rest : List Char) :
    familyAt (c :: rest) = some .word :=
  familyAt_of_opens [.newlines, .comment, .quoted, .number] rfl Family.not_opens_word
    (by simpa [Family.leads] using start)

theorem familyAt_punctuation (sign : c ∈ ['(', ')', '[', ']', '{', '}', ',']) (rest : List Char) :
    familyAt (c :: rest) = some .punctuation :=
  familyAt_of_opens [.newlines, .comment, .quoted, .number, .word, .operator] rfl
    (fun _ => Family.not_opens_punctuation sign) (by simpa [Family.leads] using sign)

/-- A text leads to no family where it leads to none of them. -/
theorem familyAt_eq_none_iff :
    familyAt text = none ↔ ∀ family : Family, family.leads text = false := by
  rw [familyAt, List.find?_eq_none]
  constructor
  · intro silent family
    have listed : family ∈ Family.all := by cases family <;> decide
    simpa using silent family listed
  · intro silent family _
    simp [silent family]

end FamilyAt

/-- The family whose lexemes are tokens of the kind. -/
def Token.Kind.family : Token.Kind → Family
  | newline => .newlines
  | lineComment => .comment
  | blockComment => .comment
  | string => .quoted
  | integer => .number
  | double => .number
  | keyword => .word
  | identifier => .word
  | operator => .operator
  | punctuation => .punctuation

/-- The family whose lexemes are found to be this; a character that begins nothing is of none. -/
def Finding.family? : Finding → Option Family
  | .token kind => some kind.family
  | .openComment => some .comment
  | .error (.openString _) => some .quoted
  | .error (.number _) => some .number
  | .error .illegalIdentifier => some .number
  | .error _ => none

section Lexemes

variable {finding : Finding} {lexeme rest : List Char}

theorem familyAt_of_numeral (stands : Stands finding lexeme rest) (numeral : finding.IsNumeral) :
    familyAt (lexeme ++ rest) = some .number := by
  have reads := (Scanner.readNumber_numeral stands numeral).1
  have begins : beginsNumber (lexeme ++ rest) = true := by
    by_contra absent
    rw [readNumber_of_not_begins (by simpa using absent)] at reads
    cases reads
  obtain ⟨c, others, same⟩ := List.exists_cons_of_ne_nil (stands.form.begins.append rest).ne_nil
  rw [same] at begins ⊢
  exact familyAt_number begins

theorem familyAt_of_isWord (isWord : IsWord lexeme) : familyAt (lexeme ++ rest) = some .word := by
  obtain ⟨c, word, start, _, rfl⟩ := isWord
  exact familyAt_word start _

theorem familyAt_of_operator (stands : Stands (.token .operator) lexeme rest) :
    familyAt (lexeme ++ rest) = some .operator := by
  have led : Family.operator.leads (lexeme ++ rest) = true := by
    rw [← Bool.not_eq_false, ← Family.read_eq_none_iff (by simp), Family.read,
      readOperator_operator stands]
    simp
  refine familyAt_of_leads [.newlines, .comment, .quoted, .number, .word] rfl ?_ led
  intro other member
  refine (Family.read_eq_none_iff ?_).mp (stands.read_operator other member)
  rintro rfl
  simp at member

theorem familyAt_of_unrecognized {c : Char} (stands : Stands (.error (.unrecognized c)) [c] rest) :
    familyAt (c :: rest) = none := by
  have noPoint : c ≠ '.' := (isNumberChar_eq_false.mp stands.form.1.noNumber).2
  rw [familyAt_eq_none_iff]
  intro family
  have iff := @Family.read_eq_none_iff family (c :: rest) fun _ => by simpa using noPoint
  exact iff.mp (stands.read_unrecognized family)

/-- The family that a text leads to is the one of the lexeme that it begins with. -/
theorem familyAt_of_stands (stands : Stands finding lexeme rest) :
    familyAt (lexeme ++ rest) = finding.family? := by
  have form := stands.form
  cases finding with
  | token kind =>
    cases kind with
    | newline =>
      obtain ⟨c, others, rfl⟩ := List.exists_cons_of_ne_nil form.1
      obtain rfl : c = '\n' := form.2 c (by simp)
      rfl
    | lineComment =>
      obtain ⟨body, rfl, _⟩ := form
      rw [List.append_assoc]
      exact familyAt_comment _
    | blockComment =>
      obtain ⟨body, rfl, _⟩ := form
      rw [List.append_assoc]
      exact familyAt_comment _
    | string =>
      obtain ⟨quote, body, quotes, _, rfl⟩ := form
      exact familyAt_quote quotes _
    | integer => exact familyAt_of_numeral stands trivial
    | double => exact familyAt_of_numeral stands trivial
    | keyword => exact familyAt_of_isWord (isWord_of_isKeyword form)
    | identifier => exact familyAt_of_isWord form.1
    | operator => exact familyAt_of_operator stands
    | punctuation =>
      obtain ⟨c, sign, rfl⟩ := form
      exact familyAt_punctuation sign rest
  | openComment =>
    obtain ⟨body, rfl, _⟩ := form
    rw [List.append_assoc]
    exact familyAt_comment _
  | error cause =>
    cases cause with
    | unrecognized c =>
      obtain ⟨_, rfl⟩ := form
      exact familyAt_of_unrecognized stands
    | openString quote =>
      obtain ⟨quotes, body, _, rfl | rfl⟩ := form
      · exact familyAt_quote quotes _
      · exact familyAt_quote quotes _
    | number flaw => exact familyAt_of_numeral stands trivial
    | illegalIdentifier => exact familyAt_of_numeral stands trivial
    | operatorSequence previous => exact absurd form id
    | openComment => exact absurd form id

end Lexemes

/-! ## Characters that lead nowhere -/

theorem range_of_isWordChar {c : Char} (word : isWordChar c = true) :
    32 ≤ c.toNat ∧ c.toNat < 127 := by
  have toNat : c.toNat = c.val.toNat := rfl
  have alphanum : c.isAlphanum = ((decide (c.val ≥ 'A'.val ∧ c.val ≤ 'Z'.val) ||
      (decide (c.val ≥ 'a'.val) && decide (c.val ≤ 'z'.val))) || c.isDigit) := rfl
  simp only [isWordChar, alphanum, Char.isDigit, Bool.or_eq_true, Bool.and_eq_true,
    decide_eq_true_eq, UInt32.le_iff_toNat_le, beq_iff_eq] at word
  have bounds : 'A'.val.toNat = 65 ∧ 'Z'.val.toNat = 90 ∧ 'a'.val.toNat = 97 ∧ 'z'.val.toNat = 122 ∧
      '0'.val.toNat = 48 ∧ '9'.val.toNat = 57 := by
    decide
  rcases word with ((upper | lower) | digit) | rfl
  · omega
  · omega
  · have zero : (48 : UInt32).toNat = 48 := rfl
    have nine : (57 : UInt32).toNat = 57 := rfl
    omega
  · decide

/-- A lexeme begins with a line break or with a visible ASCII character. -/
theorem Family.range_of_opens {family : Family} {c : Char} (opened : family.opens c = true) :
    c = '\n' ∨ 32 ≤ c.toNat ∧ c.toNat < 127 := by
  cases family with
  | newlines => exact .inl (by simpa [opens] using opened)
  | comment =>
    obtain rfl : c = '<' := by simpa [opens] using opened
    decide
  | quoted =>
    rcases isQuote_iff.mp opened with rfl | rfl
    · decide
    · decide
  | number =>
    have first : (c.isDigit = true ∨ c = '.') ∨ c = '-' := by
      simpa [opens, isNumberChar] using opened
    rcases first with (digit | rfl) | rfl
    · exact .inr (range_of_isWordChar (isWordChar_of_isDigit digit))
    · decide
    · decide
  | word => exact .inr (range_of_isWordChar (isWordChar_of_isWordStart opened))
  | operator =>
    have sign : c ∈ '!' :: shortOperators := by simpa [opens, or_comm] using opened
    have visible : ∀ sign ∈ '!' :: shortOperators, 32 ≤ sign.toNat ∧ sign.toNat < 127 :=
      forall_mem_of_all (by decide)
    exact .inr (visible c sign)
  | punctuation =>
    have sign : c ∈ ScriptLexer.punctuation := by simpa [opens] using opened
    have visible : ∀ sign ∈ ScriptLexer.punctuation, 32 ≤ sign.toNat ∧ sign.toNat < 127 :=
      forall_mem_of_all (by decide)
    exact .inr (visible c sign)

theorem familyAt_eq_none_of_range {c : Char}
    (outside : 128 ≤ c.toNat ∨ c.toNat < 32 ∨ c.toNat = 127) (noBreak : c ≠ '\n')
    (rest : List Char) : familyAt (c :: rest) = none := by
  rw [familyAt_eq_none_iff]
  intro family
  by_contra led
  rcases Family.range_of_opens (Family.opens_of_leads (by simpa using led)) with lineBreak | inside
  · exact noBreak lineBreak
  · omega

/-- An exclamation mark leads to operators before an equals sign, and nowhere otherwise. -/
theorem familyAt_exclamation {rest : List Char} :
    familyAt ('!' :: rest) = none ↔ rest.head? ≠ some '=' := by
  have operator : Family.operator.leads ('!' :: rest) = true ↔ rest.head? = some '=' := by
    rw [Family.leads_operator_iff]
    simp [shortOperators]
  rw [familyAt_eq_none_iff, ne_eq, ← operator, Bool.not_eq_true]
  refine ⟨fun silent => silent .operator, ?_⟩
  intro apart family
  cases family with
  | operator => exact apart
  | _ => exact Family.leads_of_not_opens (by decide) rest

end ScriptLexer
