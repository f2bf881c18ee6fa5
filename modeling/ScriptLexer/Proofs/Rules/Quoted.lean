import ScriptLexer.Proofs.Rules.Outcome
import ScriptLexer.Proofs.Text.Longest

/-!
# The rule for strings

Between its quotes a string is the longest run of units: a backslash with the character behind it,
or one other character. What ends the units decides the string: its quote closes it, and a line
break, the end of the text or a last backslash leaves it open.
-/
namespace ScriptLexer

namespace Grammar

variable {quote : Char} {units rest : List Char}

theorem StringBody.append {others : List Char} (front : StringBody quote units)
    (back : StringBody quote others) : StringBody quote (units ++ others) := by
  induction front with
  | nil => exact back
  | escape c _ ih => exact .escape c ih
  | plain noBreak noEscape noQuote _ ih => exact .plain noBreak noEscape noQuote ih

/-- What stands behind the longest run of units is no unit. -/
theorem cases_longest_stringBody (longest : Longest (StringBody quote) units rest)
    (unclosed : rest.head? ≠ some quote) : rest = [] ∨ rest.head? = some '\n' ∨ rest = ['\\'] := by
  have noUnit {c : Char} {more : List Char} (leads : c :: more <+: rest) :
      ¬ StringBody quote (c :: more) :=
    fun unit => longest.not_longer leads (longest.member.append unit)
  cases rest with
  | nil => exact .inl rfl
  | cons c others =>
    have noQuote : c ≠ quote := by simpa using unclosed
    by_cases noBreak : c = '\n'
    · exact .inr (.inl (congrArg some noBreak))
    by_cases noEscape : c = '\\'
    · subst noEscape
      cases others with
      | nil => exact .inr (.inr rfl)
      | cons d others => exact absurd (.escape d .nil) (@noUnit '\\' [d] ⟨others, rfl⟩)
    · exact absurd (.plain noBreak noEscape noQuote .nil) (@noUnit c [] ⟨others, rfl⟩)

end Grammar

open Grammar

namespace Scanner

variable {options : LexingOptions} {source : String} {state after : LexingState} {quote : Char}
  {text : List Char} {size : Nat}

/-- Where no blank is ahead, none is skipped. -/
theorem skipBlanks_eq_self {c : Char} {others : List Char}
    (faces : state.cursor.Faces size (c :: others)) (noBlank : isBlank c = false) :
    skipBlanks state = .ok state := by
  have turn : Cursor.eatTurn isBlank state.cursor = .ok (.done state.cursor) := by
    unfold Cursor.eatTurn
    rw [faces.isAtEnd, faces.look_head, if_neg (by simp), ok_bind, noBlank]
    rfl
  have stays : state.cursor.eatWhile isBlank = .ok state.cursor := by
    unfold Cursor.eatWhile Cursor.turns takeTurns
    rw [turn]
    rfl
  rw [skipBlanks, stays]
  rfl

/-- Where a step comes to a character that is no blank, the next lexeme begins with that
character. -/
theorem AtLexeme.next {c : Char} {others : List Char} (reached : AtLexeme options source state)
    (stepped : step options state = .ok after) (faces : after.cursor.Faces size (c :: others))
    (noBlank : isBlank c = false) : AtLexeme options source after :=
  .later reached stepped (skipBlanks_eq_self faces noBlank) faces.isAtEnd

/-- A string goes on over the longest run of units behind its quote. With the same quote behind them
it is one token. Otherwise it is one error, which takes a backslash along that is the last character
of the text, and leaves a line break to the next lexeme. -/
theorem quoted_rule (quotes : quote = '"' ∨ quote = '\'') (reached : AtLexeme options source state)
    (ahead : state.cursor.remaining = .ok (quote :: text)) :
    (∃ units rest, text = units ++ rest ∧ Longest (StringBody quote) units rest) ∧
    ∀ units rest, text = units ++ rest → Longest (StringBody quote) units rest →
      (rest.head? = some quote →
        Passes options (source.length + 1) .quoted state (quote :: (units ++ [quote]))
          (.token .string)) ∧
      (rest.head? ≠ some quote →
        (rest = [] ∨ rest.head? = some '\n' ∨ rest = ['\\']) ∧
        Passes options (source.length + 1) .quoted state
          (quote :: (units ++ if rest = ['\\'] then ['\\'] else []))
          (.error .unterminatedString
            ("Unterminated string literal (missing closing " ++ String.singleton quote ++ ")")) ∧
        (rest.head? = some '\n' → ∀ after, step options state = .ok after →
          AtLexeme options source after ∧ after.cursor.remaining = .ok rest)) := by
  refine ⟨exists_longest .nil text, ?_⟩
  rintro units rest rfl longest
  have isQuote := isQuote_iff.mpr quotes
  have body := longest.member
  have closed := Family.not_opens_quoted isQuote
  obtain ⟨faces, _⟩ := reached.faces ahead
  refine ⟨?_, ?_⟩
  · intro next
    obtain ⟨others, rfl⟩ := List.head?_eq_some_iff.mp next
    have split : quote :: (units ++ quote :: others) = quote :: (units ++ [quote]) ++ others := by
      simp
    have reads := readQuoted_closed others isQuote body
    rw [← split] at reads
    exact passes_of_opens .quoted _ rfl faces rfl closed split (congrArg Except.ok reads) (by simp)
  · intro unclosed
    have stop := cases_longest_stringBody longest unclosed
    by_cases dangling : rest = ['\\']
    · subst dangling
      have reads := readQuoted_dangling isQuote body
      have split := (List.append_nil (quote :: (units ++ ['\\']))).symm
      have passes : Passes options _ .quoted state _ _ :=
        passes_of_opens .quoted _ rfl faces rfl closed split (congrArg Except.ok reads) (by simp)
      exact ⟨stop, passes, by simp⟩
    · have ends : ∀ c ∈ rest.head?, c = '\n' := by
        rcases stop with rfl | lineBreak | last
        · simp
        · simp [lineBreak]
        · exact absurd last dangling
      have reads := readQuoted_open isQuote body ends
      have passes : Passes options _ .quoted state _ _ :=
        passes_of_opens .quoted _ rfl faces rfl closed rfl (congrArg Except.ok reads) (by simp)
      rw [if_neg dangling, List.append_nil]
      refine ⟨stop, passes, ?_⟩
      intro lineBreak after stepped
      obtain ⟨others, rfl⟩ := List.head?_eq_some_iff.mp lineBreak
      obtain rfl := passes.steps.scans.eq_of_ok stepped
      have behind :
          (state.cursor.past (quote :: units)).Faces (source.length + 1) ('\n' :: others) :=
        faces.past
      exact ⟨reached.next stepped behind (by decide), behind.remaining⟩

/-- An escaped quote, an escaped line break and a quote of the other kind, before a line break that
ends the string open. -/
theorem quoted_rule_open :
    ∃ state after, AtLexeme {} "\"\\\"\\\n'\nx" state ∧
      Passes {} 9 .quoted state "\"\\\"\\\n'".toList
        (.error .unterminatedString "Unterminated string literal (missing closing \")") ∧
      step {} state = .ok after ∧ AtLexeme {} "\"\\\"\\\n'\nx" after ∧
      after.cursor.remaining = .ok "\nx".toList := by
  obtain ⟨state, reached, ahead⟩ :=
    @exists_atLexeme "\"\\\"\\\n'\nx" "\"\\\"\\\n'\nx".toList {} (by decide) [] rfl (by simp)
      ⟨'"', rfl, rfl⟩
  have units : StringBody '"' "\\\"\\\n'".toList :=
    .escape '"' (.escape '\n' (.plain (by decide) (by decide) (by decide) .nil))
  have longest : Longest (StringBody '"') "\\\"\\\n'".toList ['\n', 'x'] := by
    refine Longest.of_not_longer units ?_
    intro c more leads longer
    obtain ⟨rfl, others⟩ := List.cons_prefix_cons.mp leads
    have closed := quotedEnd_body 0 ['"'] longer
    rcases List.prefix_cons_iff.mp others with rfl | ⟨last, rfl, alone⟩
    · exact absurd closed (by decide)
    · rw [List.prefix_nil.mp alone] at closed
      exact absurd closed (by decide)
  obtain ⟨_, passes, next⟩ :=
    ((quoted_rule (.inl rfl) reached ahead).2 _ _ rfl longest).2 (by decide)
  have stepped := passes.steps.scans.eq_ok (by decide)
  obtain ⟨behind, remaining⟩ := next rfl _ stepped
  exact ⟨state, _, reached, passes, stepped, behind, remaining⟩

end Scanner

end ScriptLexer
