import ScriptLexer.Proofs.Grammar.Comment
import ScriptLexer.Proofs.Grammar.Number.Totality
import ScriptLexer.Proofs.Grammar.Quoted
import ScriptLexer.Proofs.Grammar.Sign

/-!
# One lexeme

The families are asked in a fixed order, and some may begin with the same character: `<` opens
comments and operators, `-` numbers and operators, `.` numbers and punctuation. What stands at the
beginning of a text by the grammar is what the families find there.
-/
namespace ScriptLexer

open Grammar

namespace Family

/-- What the first family that has a lexeme here reads. -/
def readFirst : List Family → List Char → Except Fault (Option Reading)
  | [], _ => .ok none
  | family :: others, text => do
    match ← family.read text with
    | some reading => return some reading
    | none => readFirst others text

/-- Lexemes of the family may begin with the character. -/
def opens : Family → Char → Bool
  | newlines, c => c == '\n'
  | comment, c => c == '<'
  | quoted, c => isQuote c
  | number, c => isNumberChar c || c == '-'
  | word, c => isWordStart c
  | operator, c => decide (c ∈ shortOperators) || c == '!'
  | punctuation, c => decide (c ∈ ScriptLexer.punctuation)

/-- No operator begins with a character that opens none. -/
theorem notMem_longOperators {c : Char} (closed : operator.opens c = false) (d : Char) :
    (c, d) ∉ longOperators := by
  have first : ∀ sign ∈ longOperators, operator.opens sign.1 = true := by decide
  intro member
  rw [first _ member] at closed
  cases closed

theorem read_of_not_opens {family : Family} {c : Char} (closed : family.opens c = false)
    (rest : List Char) : family.read (c :: rest) = .ok none := by
  cases family with
  | newlines =>
    have other : c ≠ '\n' := by simpa [opens] using closed
    simp [read, readNewlines, runLength, other]
  | comment =>
    have other : c ≠ '<' := by simpa [opens] using closed
    simp [read, readComment, other]
  | quoted => simp [read, readQuoted, show isQuote c = false from closed]
  | number =>
    obtain ⟨noNumber, noMinus⟩ : isNumberChar c = false ∧ c ≠ '-' := by simpa [opens] using closed
    simp [read, readNumber, noNumber, noMinus]
  | word => simp [read, readWord, show isWordStart c = false from closed]
  | operator =>
    obtain ⟨noOperator, _⟩ : c ∉ shortOperators ∧ c ≠ '!' := by simpa [opens] using closed
    rw [read, readOperator_short (fun d _ => notMem_longOperators closed d), if_neg noOperator]
  | punctuation =>
    have other : c ∉ ScriptLexer.punctuation := by simpa [opens] using closed
    simp [read, readPunctuation, other]

/-- A family is heard once all families before it decline. -/
theorem readFirst_of_declined {before after : List Family} {family : Family} {text : List Char}
    {reading : Reading} {size : Nat} (declined : ∀ other ∈ before, other.read text = .ok none)
    (reads : Yields size (family.read text) (some reading)) :
    Yields size (readFirst (before ++ family :: after) text) (some reading) := by
  induction before with
  | nil => exact reads.bind (.ok size (some reading))
  | cons other before ih =>
    have next := ih (fun later member => declined later (List.mem_cons_of_mem _ member))
    rw [List.cons_append, readFirst, declined other (by simp)]
    exact next

theorem readFirst_none {families : List Family} {text : List Char}
    (declined : ∀ family ∈ families, family.read text = .ok none) :
    readFirst families text = .ok none := by
  induction families with
  | nil => rfl
  | cons family others ih =>
    rw [readFirst, declined family (by simp)]
    exact ih (fun later member => declined later (List.mem_cons_of_mem _ member))

/-! ## Which families may begin with the same character -/

theorem opens_of_read {family : Family} {c : Char} {rest : List Char} {reading : Reading}
    (reads : family.read (c :: rest) = .ok (some reading)) : family.opens c = true := by
  by_contra closed
  rw [read_of_not_opens (by simpa using closed)] at reads
  cases reads

theorem not_opens_quoted {c : Char} (opened : quoted.opens c = true) :
    ∀ other ∈ [newlines, comment], other.opens c = false := by
  rcases isQuote_iff.mp opened with rfl | rfl
  · decide
  · decide

/-- What opens a lexeme of the first three families opens none of the ones below. -/
theorem not_opens_early {family : Family} {c : Char} (later : family ∈ [number, word])
    (opened : family.opens c = true) :
    ∀ other ∈ [newlines, comment, quoted], other.opens c = false := by
  have closed : ∀ sign ∈ ['\n', '<', '"', '\''], ∀ family ∈ [number, word],
      family.opens sign = false := forall_mem_of_all (by decide)
  intro other early
  by_contra opens
  have listed : c ∈ ['\n', '<', '"', '\''] := by
    simp only [List.mem_cons, List.not_mem_nil, or_false] at early
    rcases early with rfl | rfl | rfl
    · simpa [Family.opens] using Or.inl opens
    · simpa [Family.opens] using Or.inr (Or.inl opens)
    · have quote : c = '"' ∨ c = '\'' := by simpa [Family.opens, isQuote_iff] using opens
      simpa using Or.inr (Or.inr quote)
  rw [closed c listed family later] at opened
  cases opened

theorem not_opens_word {c : Char} (opened : word.opens c = true) :
    ∀ other ∈ [newlines, comment, quoted, number], other.opens c = false := by
  have start : isWordStart c = true := opened
  have noPoint : c ≠ '.' := by
    rintro rfl
    revert start
    decide
  have noMinus : c ≠ '-' := by
    rintro rfl
    revert start
    decide
  have noNumber : number.opens c = false := by
    simp [opens, isNumberChar, isDigit_of_isWordStart start, noPoint, noMinus]
  have early := not_opens_early (by simp) opened
  intro other member
  rw [show [newlines, comment, quoted, number] = [newlines, comment, quoted] ++ [number] from rfl,
    List.mem_append, List.mem_singleton] at member
  rcases member with before | rfl
  · exact early other before
  · exact noNumber

theorem not_opens_operator {c : Char} (opened : operator.opens c = true) :
    ∀ other ∈ [newlines, quoted, word], other.opens c = false := by
  have closed : ∀ sign ∈ '!' :: shortOperators, ∀ other ∈ [newlines, quoted, word],
      other.opens sign = false :=
    forall_mem_of_all (by decide)
  have listed : c ∈ '!' :: shortOperators := by
    simpa [opens, or_comm] using opened
  exact closed c listed

theorem not_opens_punctuation {c : Char} (sign : c ∈ ['(', ')', '[', ']', '{', '}', ',']) :
    ∀ other ∈ [newlines, comment, quoted, number, word, operator], other.opens c = false := by
  have closed : ∀ sign ∈ ['(', ')', '[', ']', '{', '}', ','],
      ∀ other ∈ [newlines, comment, quoted, number, word, operator], other.opens sign = false :=
    forall_mem_of_all (by decide)
  exact closed c sign

end Family

/-- The lexeme at the beginning of a text: what the first family reads, or one character that begins
nothing. -/
def readLexeme (c : Char) (rest : List Char) : Except Fault Reading :=
  (Family.readFirst Family.all (c :: rest)).map
    (·.getD { finding := .error (.unrecognized c), length := 1 })

variable {c : Char} {others : List Char} {reading : Reading}

/-- The lexeme is what a family reads, when the families before it may not begin with the
character. -/
theorem readLexeme_of_family (before : List Family) {after : List Family} {family : Family}
    {size : Nat} (order : Family.all = before ++ family :: after)
    (declined : ∀ other ∈ before, other.read (c :: others) = .ok none)
    (reads : Yields size (family.read (c :: others)) (some reading)) :
    Yields size (readLexeme c others) reading := by
  unfold readLexeme
  rw [order]
  exact (Family.readFirst_of_declined declined reads).map _

theorem readLexeme_of_opens (before : List Family) {after : List Family} {family : Family}
    (order : Family.all = before ++ family :: after)
    (closed : family.opens c = true → ∀ other ∈ before, other.opens c = false)
    (reads : family.read (c :: others) = .ok (some reading)) (size : Nat) :
    Yields size (readLexeme c others) reading := by
  have opened := Family.opens_of_read reads
  have declined : ∀ other ∈ before, other.read (c :: others) = .ok none := fun other member =>
    Family.read_of_not_opens (closed opened other member) others
  exact readLexeme_of_family before order declined (reads ▸ .ok size (some reading))

theorem readLexeme_of_comment {body : List Char} {size : Nat}
    (same : c :: others = opening ++ body)
    (reads : Yields size (readComment (c :: others)) (some reading)) :
    Yields size (readLexeme c others) reading := by
  obtain ⟨rfl, rfl⟩ := List.cons.inj same
  refine readLexeme_of_family [.newlines] rfl ?_ reads
  intro other member
  rw [List.mem_singleton.mp member]
  exact Family.read_of_not_opens (by decide) _

theorem readLexeme_of_number (reads : readNumber (c :: others) = some reading) (size : Nat) :
    Yields size (readLexeme c others) reading := by
  refine readLexeme_of_opens [.newlines, .comment, .quoted] rfl ?_ (congrArg Except.ok reads) size
  exact Family.not_opens_early (by simp)

theorem readLexeme_of_word (reads : readWord (c :: others) = some reading) (size : Nat) :
    Yields size (readLexeme c others) reading :=
  readLexeme_of_opens [.newlines, .comment, .quoted, .number] rfl Family.not_opens_word
    (congrArg Except.ok reads) size

theorem readLexeme_of_quoted (reads : readQuoted (c :: others) = some reading) (size : Nat) :
    Yields size (readLexeme c others) reading :=
  readLexeme_of_opens [.newlines, .comment] rfl Family.not_opens_quoted
    (congrArg Except.ok reads) size

theorem readLexeme_of_punctuation {lexeme rest : List Char} (same : c :: others = lexeme ++ rest)
    (isPunctuation : IsPunctuation lexeme) (size : Nat) :
    Yields size (readLexeme c others)
      { finding := .token .punctuation, length := lexeme.length } := by
  have reads : readPunctuation (c :: others) = _ := same ▸ readPunctuation_punctuation isPunctuation
  obtain ⟨sign, listed, rfl⟩ := isPunctuation
  obtain rfl : c = sign := (List.cons.inj same).1
  exact readLexeme_of_opens [.newlines, .comment, .quoted, .number, .word, .operator] rfl
    (fun _ => Family.not_opens_punctuation listed) (congrArg Except.ok reads) size

namespace Stands

variable {finding : Finding} {lexeme rest : List Char}

/-- An operator is not the beginning of a comment. -/
theorem readComment_operator (stands : Stands (.token .operator) lexeme rest) :
    readComment (lexeme ++ rest) = .ok none := by
  rw [readComment.eq_2]
  intro body same
  obtain ⟨⟨a, b, long, rfl⟩ | ⟨a, short, rfl⟩, ends⟩ := stands
  · obtain ⟨rfl, rfl, rfl⟩ : a = '<' ∧ b = '<' ∧ rest = '<' :: body := by simpa using same
    exact (ends '<' rfl).2.2 rfl rfl
  · obtain ⟨rfl, rfl⟩ : a = '<' ∧ rest = '<' :: '<' :: body := by simpa using same
    exact (ends '<' rfl).1 '<' rfl (by decide)

/-- An operator is not the beginning of a number. -/
theorem readNumber_operator (stands : Stands (.token .operator) lexeme rest) :
    readNumber (lexeme ++ rest) = none := by
  obtain ⟨⟨a, b, long, rfl⟩ | ⟨a, short, rfl⟩, ends⟩ := stands
  · have noNumber : ∀ signs ∈ longOperators,
        isNumberChar signs.1 = false ∧ isNumberChar signs.2 = false := by
      decide
    obtain ⟨first, second⟩ := noNumber _ long
    by_cases minus : a = '-'
    · simp [readNumber, minus, show isNumberChar b = false from second]
    · simp [readNumber, minus, show isNumberChar a = false from first]
  · have noNumber : ∀ sign ∈ shortOperators, isNumberChar sign = false :=
      forall_mem_of_all (by decide)
    by_cases minus : a = '-'
    · subst minus
      cases rest with
      | nil => rfl
      | cons c rest => simp [readNumber, (ends c rfl).2.1 rfl]
    · simp [readNumber, minus, noNumber a short]

/-- An operator is left by all families that are asked before operators. -/
theorem read_operator (stands : Stands (.token .operator) lexeme rest) :
    ∀ other ∈ [Family.newlines, .comment, .quoted, .number, .word],
      other.read (lexeme ++ rest) = .ok none := by
  have reads : Family.operator.read (lexeme ++ rest) = .ok (some _) :=
    congrArg Except.ok (readOperator_operator stands)
  have comment : Family.comment.read (lexeme ++ rest) = .ok none := stands.readComment_operator
  have number : Family.number.read (lexeme ++ rest) = .ok none :=
    congrArg Except.ok stands.readNumber_operator
  intro other member
  cases same : lexeme ++ rest with
  | nil =>
    rw [same] at reads
    cases reads
  | cons c others =>
    rw [same] at reads comment number
    have closed := Family.not_opens_operator (Family.opens_of_read reads)
    simp only [List.mem_cons, List.not_mem_nil, or_false] at member
    rcases member with rfl | rfl | rfl | rfl | rfl
    · exact Family.read_of_not_opens (closed _ (by simp)) others
    · exact comment
    · exact Family.read_of_not_opens (closed _ (by simp)) others
    · exact number
    · exact Family.read_of_not_opens (closed _ (by simp)) others

theorem readLexeme_operator {c : Char} {others : List Char}
    (stands : Stands (.token .operator) lexeme rest) (same : c :: others = lexeme ++ rest)
    (size : Nat) :
    Yields size (readLexeme c others) { finding := .token .operator, length := lexeme.length } := by
  have reads : Family.operator.read (c :: others) = .ok (some _) :=
    same ▸ congrArg Except.ok (readOperator_operator stands)
  exact readLexeme_of_family [.newlines, .comment, .quoted, .number, .word] rfl
    (same ▸ stands.read_operator) (reads ▸ .ok size (some _))

/-- A character that begins nothing is declined by every family. -/
theorem read_unrecognized {c : Char} (stands : Stands (.error (.unrecognized c)) [c] rest)
    (family : Family) : family.read (c :: rest) = .ok none := by
  obtain ⟨⟨nothing, _⟩, ends⟩ := stands
  by_cases isOperator : family = .operator
  · subst isOperator
    rw [Family.read, readOperator_short ends, if_neg nothing.noOperator]
  · refine Family.read_of_not_opens ?_ rest
    cases family with
    | newlines => simpa [Family.opens] using nothing.noBreak
    | comment =>
      have noOperator := nothing.noOperator
      have other : c ≠ '<' := by
        rintro rfl
        exact noOperator (by decide)
      simpa [Family.opens] using other
    | quoted => exact nothing.noQuote
    | number =>
      have noOperator := nothing.noOperator
      have other : c ≠ '-' := by
        rintro rfl
        exact noOperator (by decide)
      simpa [Family.opens, nothing.noNumber] using other
    | word => exact nothing.noWord
    | operator => exact absurd rfl isOperator
    | punctuation => simpa [Family.opens] using nothing.noPunctuation

theorem readLexeme_unrecognized {c : Char} (stands : Stands (.error (.unrecognized c)) [c] rest) :
    readLexeme c rest = .ok { finding := .error (.unrecognized c), length := 1 } := by
  rw [readLexeme, Family.readFirst_none fun family _ => stands.read_unrecognized family]
  rfl

/-- What stands at the beginning of a text is what is found there. -/
theorem readLexeme {c : Char} {others : List Char} (stands : Stands finding lexeme rest)
    (same : c :: others = lexeme ++ rest) :
    Yields lexeme.length (readLexeme c others) { finding, length := lexeme.length } := by
  have form := stands.form
  have ends := stands.ends
  cases finding with
  | token kind =>
    cases kind with
    | newline =>
      have reads := readNewlines_newlines form ends
      exact readLexeme_of_opens [] rfl (by simp) (same ▸ congrArg Except.ok reads) _
    | lineComment =>
      obtain ⟨body, rfl, oneLine, noClosing⟩ := form
      have reads := readComment_line rest oneLine noClosing ends
      rw [List.append_assoc] at same reads
      exact readLexeme_of_comment same (same ▸ reads ▸ .ok _ _)
    | blockComment =>
      obtain ⟨body, rfl, closes, drops⟩ := form
      have reads := readComment_closed rest closes drops
      rw [List.append_assoc] at same reads
      exact readLexeme_of_comment same (same ▸ reads)
    | string =>
      obtain ⟨quote, body, quotes, units, rfl⟩ := form
      exact readLexeme_of_quoted (same ▸ readQuoted_closed rest quotes units) _
    | integer => exact readLexeme_of_number (same ▸ readNumber_token (.inl ⟨rfl, form⟩) ends) _
    | double => exact readLexeme_of_number (same ▸ readNumber_token (.inr ⟨rfl, form⟩) ends) _
    | keyword => exact readLexeme_of_word (same ▸ readWord_keyword form ends) _
    | identifier => exact readLexeme_of_word (same ▸ readWord_identifier form ends) _
    | operator => exact stands.readLexeme_operator same _
    | punctuation => exact readLexeme_of_punctuation same form _
  | openComment =>
    obtain ⟨body, rfl, closes, stays⟩ := form
    cases rest with
    | cons next rest => exact absurd (ends next rfl) id
    | nil =>
      rw [List.append_nil] at same
      exact readLexeme_of_comment same (same ▸ readComment_open closes stays)
  | error cause =>
    cases cause with
    | unrecognized first =>
      obtain ⟨nothing, rfl⟩ := form
      obtain ⟨rfl, rfl⟩ := List.cons.inj same
      exact stands.readLexeme_unrecognized ▸ .ok _ _
    | openString quote =>
      obtain ⟨quotes, body, units, rfl | rfl⟩ := form
      · have stops : ∀ c ∈ rest.head?, c = '\n' := fun c next => (ends c next).1
        exact readLexeme_of_quoted (same ▸ readQuoted_open quotes units stops) _
      · cases rest with
        | cons next rest => exact absurd (ends next rfl).2 (not_stringBody_dangling quotes units)
        | nil =>
          rw [List.append_nil] at same
          exact readLexeme_of_quoted (same ▸ readQuoted_dangling quotes units) _
    | number flaw => exact readLexeme_of_number (same ▸ readNumber_malformed stands) _
    | illegalIdentifier => exact readLexeme_of_number (same ▸ readNumber_illegalIdentifier stands) _
    | operatorSequence previous => exact absurd form id
    | openComment => exact absurd form id

end Stands

end ScriptLexer
