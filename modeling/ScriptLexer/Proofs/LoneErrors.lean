import ScriptLexer.Proofs.Counters
import ScriptLexer.Proofs.Spans
import ScriptLexer.Proofs.TokenLanguages

/-!
# Errors on their own

Where an error ends depends on what stands behind it, but what it is does not: the lexeme of an
error about the lexeme itself, lexed alone, is one error again, with the same code and the same
message.
-/
namespace ScriptLexer

open Grammar

/-- The errors about a lexeme itself. The other two are about where a sound lexeme stands, or that
the text ends before it does. -/
def spoilingCodes : List ErrorCode :=
  [.unrecognized, .unterminatedString, .malformedNumber, .illegalIdentifier]

/-- What is spoiled is read without a counter. -/
theorem Stands.readLexeme_spoiled {cause : Cause} {lexeme rest others : List Char} {c : Char}
    (stands : Stands (.error cause) lexeme rest) (same : c :: others = lexeme ++ rest) :
    ScriptLexer.readLexeme c others = .ok { finding := .error cause, length := lexeme.length } := by
  suffices reads : Yields 0 (ScriptLexer.readLexeme c others)
      { finding := .error cause, length := lexeme.length } from reads.eq_ok (by decide)
  have form := stands.form
  cases cause with
  | unrecognized first =>
    obtain ⟨_, rfl⟩ := form
    obtain ⟨rfl, rfl⟩ := List.cons.inj same
    exact stands.readLexeme_unrecognized ▸ .ok _ _
  | openString quote =>
    obtain ⟨quotes, body, units, rfl | rfl⟩ := form
    · have stops : ∀ c ∈ rest.head?, c = '\n' := fun c next => (stands.ends c next).1
      exact readLexeme_of_quoted (same ▸ readQuoted_open quotes units stops) _
    · cases rest with
      | cons next rest =>
        exact absurd (stands.ends next rfl).2 (not_stringBody_dangling quotes units)
      | nil =>
        rw [List.append_nil] at same
        exact readLexeme_of_quoted (same ▸ readQuoted_dangling quotes units) _
  | number flaw => exact readLexeme_of_number (same ▸ readNumber_malformed stands) _
  | illegalIdentifier => exact readLexeme_of_number (same ▸ readNumber_illegalIdentifier stands) _
  | operatorSequence previous => exact absurd form id
  | openComment => exact absurd form id

/-- What is spoiled is lexed alone as that one error, wherever there is room to count it. -/
theorem lexText_spoiled (options : LexingOptions) {cause : Cause} {source : String}
    (form : (Finding.error cause).Form source.toList)
    (room : ({} : Place).overflows source.toList = false) :
    lexText options source = .ok {
      tokens := [], errors := [LexicalError.ofCause cause source (.whole source)] } := by
  rcases lexText_yields_of_form options form with done | ⟨failed, _⟩
  · exact done
  · obtain ⟨c, others, text⟩ := List.exists_cons_of_ne_nil form.begins.ne_nil
    rw [text] at form room
    have noBlank := Stops.some_iff.mp (isBlank_false_of_begins form.begins)
    have stands : Stands (.error cause) (c :: others) [] := ⟨form, Finding.ends_none _ _⟩
    have reads := stands.readLexeme_spoiled (List.append_nil _).symm
    let start : LexingState := { cursor := Cursor.ofText (c :: others) }
    have ahead : start.cursor.rest = some (c :: others) := rfl
    obtain ⟨after, committed, ended⟩ := @LexingState.commit_of_room options start (.error cause)
      (c :: others) [] (by rw [List.append_nil]; rfl) room
    have stepped : start.step options = .ok after := by
      rw [LexingState.step_eq ahead, reads]
      exact committed
    have ran : LexingState.run options (others.length + 1) start = .ok after := by
      rw [LexingState.run_succ ahead noBlank, stepped]
      exact LexingState.run_atEnd ended _
    rw [lexText, text, List.length_cons, ran] at failed
    cases failed

/-- An error about a lexeme itself is what the lexeme is found to be. -/
theorem Located.spoiled_of_mem_errors {options : LexingOptions} {previous : Option Token}
    {located : Located} {error : LexicalError} (member : error ∈ located.errors options previous)
    (spoils : error.code ∈ spoilingCodes) :
    ∃ cause, located.finding = .error cause ∧
      error = LexicalError.ofCause cause located.lexeme located.span := by
  rcases errors_cases options previous located with silent | ⟨cause, one, which⟩
  · rw [silent] at member
    cases member
  · rw [one] at member
    obtain rfl := List.mem_singleton.mp member
    rcases which with ⟨before, rfl, _⟩ | ⟨rfl, _⟩ | spoiled
    · exact absurd spoils (by simp [LexicalError.ofCause, Cause.code, spoilingCodes])
    · exact absurd spoils (by simp [LexicalError.ofCause, Cause.code, spoilingCodes])
    · exact ⟨cause, spoiled, rfl⟩

/-- Every error about a lexeme itself is found again when the lexeme is lexed alone, whatever stood
around it: it is the only record, and it goes from the first character to the last. -/
theorem lexText_errorsAlone (options : LexingOptions) (source : String) :
    (∃ lexing, lexText options source = .ok lexing ∧
      ∀ error ∈ lexing.errors, error.code ∈ spoilingCodes →
        lexText {} error.lexeme = .ok {
          tokens := [], errors := [{ error with span := .whole error.lexeme }] }) ∨
      (lexText options source = .error .counterOverflow ∧ counterLimit ≤ source.length + 1) := by
  obtain ⟨pieces, tail, same, divides⟩ := exists_division source.toList
  rcases lexText_yields options divides same.symm with done | failed
  · refine .inl ⟨_, done, ?_⟩
    intro error among spoils
    obtain ⟨located, member, previous, found⟩ := exists_of_mem_errorsOf among
    obtain ⟨cause, spoiled, rfl⟩ := Located.spoiled_of_mem_errors found spoils
    obtain ⟨front, back, split, _, _, stands⟩ := exists_around divides member
    rw [spoiled] at stands
    -- The lexeme starts further down and further right in the text than it does alone.
    have room := overflows_eq_false_of_lexText done
    rw [← same, split, Place.overflows_append, Bool.or_eq_false_iff, Place.overflows_append,
      Bool.or_eq_false_iff] at room
    have first := Place.one_le_past front
    exact lexText_spoiled {} stands.form (Place.overflows_mono first.1 first.2 room.2.1)
  · exact .inr failed

/-- A string that goes on over an escaped line break and lacks its quote, and an exponent without
digits. -/
theorem lexText_errorsAlone_escapedBreak :
    ∃ lexing, lexText { reportOpenComments := true } "x \"a\\\nb\n5e+x" = .ok lexing ∧
      lexing.errors.map LexicalError.lexeme = ["\"a\\\nb", "5e+x"] ∧
      ∀ error ∈ lexing.errors, lexText {} error.lexeme = .ok {
        tokens := [], errors := [{ error with span := .whole error.lexeme }] } := by
  rcases lexText_errorsAlone { reportOpenComments := true } "x \"a\\\nb\n5e+x" with
    ⟨lexing, lexed, alone⟩ | ⟨_, long⟩
  · have found :
        (lexText { reportOpenComments := true } "x \"a\\\nb\n5e+x").map Lexing.errors =
          .ok [LexicalError.ofCause (.openString '"') "\"a\\\nb" ⟨2, 7, 1, 3⟩,
            LexicalError.ofCause (.number .missingExponent) "5e+x" ⟨8, 12, 3, 1⟩] := by
      decide +kernel
    rw [lexed] at found
    have errors := Except.ok.inj found
    refine ⟨lexing, lexed, by rw [errors]; rfl, ?_⟩
    intro error among
    refine alone error among ?_
    rw [errors] at among
    simp only [List.mem_cons, List.not_mem_nil, or_false] at among
    rcases among with rfl | rfl
    · simp [LexicalError.ofCause, Cause.code, spoilingCodes]
    · simp [LexicalError.ofCause, Cause.code, spoilingCodes]
  · exact absurd long (by decide)

end ScriptLexer
