import ScriptLexer.Proofs.Grammar.Basic

/-!
# Reading strings

The reader of strings finds exactly the strings of the grammar, closed or not. Its walk follows the
units of the body, so an escaped quote never closes the string.
-/
namespace ScriptLexer

namespace Grammar

variable {quote : Char} {body : List Char}

theorem quotedEnd_body (passed : Nat) (rest : List Char) (units : StringBody quote body) :
    quotedEnd quote passed (body ++ rest) = quotedEnd quote (passed + body.length) rest := by
  induction units generalizing passed with
  | nil => rfl
  | escape c _ ih =>
    rw [List.cons_append, List.cons_append, quotedEnd, ih]
    simp only [List.length_cons]
    congr 1
    omega
  | @plain c _ noBreak noEscape noQuote _ ih =>
    rw [List.cons_append, quotedEnd.eq_5 _ _ c _ noBreak (fun escape _ => noEscape escape)
      (fun _ _ escape _ => noEscape escape), if_neg noQuote, ih]
    simp only [List.length_cons]
    congr 1
    omega

theorem isQuote_iff {c : Char} : isQuote c = true ↔ c = '"' ∨ c = '\'' := by
  simp [isQuote]

theorem quotedEnd_quote (quotes : isQuote quote = true) (passed : Nat) (rest : List Char) :
    quotedEnd quote passed (quote :: rest) = { length := passed + 1, closed := true } := by
  rcases isQuote_iff.mp quotes with rfl | rfl
  · simp [quotedEnd]
  · simp [quotedEnd]

/-- Where the units of a body stop: at its quote, before a line break, at the end, or at a backslash
with nothing behind it. -/
theorem exists_stringBody (quote : Char) (text : List Char) :
    ∃ body rest, text = body ++ rest ∧ StringBody quote body ∧
      (rest.head? = some quote ∨ rest = [] ∨ rest.head? = some '\n' ∨ rest = ['\\']) := by
  -- The count of passed characters plays no part; the walk only lends its case analysis.
  have passed : Nat := 0
  induction passed, text using quotedEnd.induct quote with
  | case1 passed => exact ⟨[], [], rfl, .nil, .inr (.inl rfl)⟩
  | case2 passed rest => exact ⟨[], '\n' :: rest, rfl, .nil, .inr (.inr (.inl rfl))⟩
  | case3 passed => exact ⟨[], ['\\'], rfl, .nil, .inr (.inr (.inr rfl))⟩
  | case4 passed c rest ih =>
    obtain ⟨body, tail, rfl, units, stop⟩ := ih
    exact ⟨'\\' :: c :: body, tail, rfl, .escape c units, stop⟩
  | case5 passed rest noBreak noLast noEscape => exact ⟨[], quote :: rest, rfl, .nil, .inl rfl⟩
  | case6 passed c rest noBreak noLast noEscape noQuote ih =>
    obtain ⟨body, tail, rfl, units, stop⟩ := ih
    have plain : c ≠ '\\' := by
      rintro rfl
      cases more : body ++ tail with
      | nil => exact noLast rfl more
      | cons next others => exact noEscape next others rfl more
    exact ⟨c :: body, tail, rfl, .plain noBreak plain noQuote units, stop⟩

end Grammar

open Grammar

variable {quote : Char} {body : List Char}

theorem readQuoted_closed (rest : List Char) (quotes : isQuote quote = true)
    (units : StringBody quote body) :
    readQuoted (quote :: (body ++ [quote]) ++ rest) =
      some { finding := .token .string, length := (quote :: (body ++ [quote])).length } := by
  have reached := quotedEnd_body 1 (quote :: rest) units
  rw [quotedEnd_quote quotes] at reached
  simp only [List.cons_append, List.append_assoc, List.nil_append, readQuoted, quotes, if_true,
    reached, List.length_cons, List.length_append, List.length_nil, Nat.add_comm 1]

theorem readQuoted_open {rest : List Char} (quotes : isQuote quote = true)
    (units : StringBody quote body) (ends : ∀ c ∈ rest.head?, c = '\n') :
    readQuoted (quote :: body ++ rest) =
      some { finding := .error (.openString quote), length := (quote :: body).length } := by
  have reached := quotedEnd_body 1 rest units
  have stopped : quotedEnd quote (1 + body.length) rest =
      { length := 1 + body.length, closed := false } := by
    cases rest with
    | nil => rfl
    | cons c rest =>
      rw [ends c rfl]
      rfl
  rw [stopped] at reached
  simp [readQuoted, quotes, reached, Nat.add_comm 1]

theorem readQuoted_dangling (quotes : isQuote quote = true) (units : StringBody quote body) :
    readQuoted (quote :: (body ++ ['\\'])) =
      some { finding := .error (.openString quote)
             length := (quote :: (body ++ ['\\'])).length } := by
  have reached := quotedEnd_body 1 ['\\'] units
  rw [quotedEnd] at reached
  simp [readQuoted, quotes, reached, Nat.add_comm 1]

/-- A body does not go on with a lone backslash: nothing but the end of the text may stand behind
it. -/
theorem not_stringBody_dangling (quotes : isQuote quote = true) (units : StringBody quote body) :
    ¬ StringBody quote (body ++ ['\\']) := by
  intro longer
  have short := quotedEnd_body 0 ['\\', quote] units
  have long := quotedEnd_body 0 [quote] longer
  rw [quotedEnd_quote quotes] at long
  simp only [List.append_assoc, List.cons_append, List.nil_append, short, quotedEnd] at long
  simp at long

/-- Whatever begins with a quote is a string, closed or not. -/
theorem exists_quoted (quotes : isQuote quote = true) (text : List Char) :
    ∃ finding lexeme rest, quote :: text = lexeme ++ rest ∧ Stands finding lexeme rest := by
  obtain ⟨body, rest, rfl, units, closed | rfl | lineBreak | rfl⟩ := exists_stringBody quote text
  · obtain ⟨tail, rfl⟩ := List.head?_eq_some_iff.mp closed
    exact ⟨.token .string, quote :: (body ++ [quote]), tail, by simp,
      ⟨quote, body, quotes, units, rfl⟩, fun _ _ => trivial⟩
  · exact ⟨.error (.openString quote), quote :: body, [], by simp,
      ⟨quotes, body, units, .inl rfl⟩, by simp⟩
  · refine ⟨.error (.openString quote), quote :: body, rest, by simp,
      ⟨quotes, body, units, .inl rfl⟩, ?_⟩
    rw [lineBreak]
    exact (Finding.ends_some _ _ _).mpr ⟨rfl, units⟩
  · exact ⟨.error (.openString quote), quote :: (body ++ ['\\']), [], by simp,
      ⟨quotes, body, units, .inr rfl⟩, by simp⟩

end ScriptLexer
