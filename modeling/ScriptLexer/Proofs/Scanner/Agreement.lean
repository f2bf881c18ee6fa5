import ScriptLexer.Proofs.Scanner.Comment
import ScriptLexer.Proofs.Scanner.Number
import ScriptLexer.Proofs.Scanner.Quoted
import ScriptLexer.Proofs.Scanner.Signs

/-!
# Scanning and reading ahead agree

What the scanners record of a text is what is recorded by reading it ahead. Step by step both come
to the same state, and both stop short for the same reason if they do.
-/
namespace ScriptLexer

namespace Cursor.Faces

variable {cursor : Cursor} {taken rest : List Char} {size : Nat}

theorem nextn (faces : cursor.Faces size (taken ++ rest)) :
    Yields size (cursor.nextn taken.length) (cursor.past taken) := by
  rw [nextn_eq faces.rest, List.take_left]
  split
  case isTrue full =>
    have room := faces.room.mono (show taken.length ≤ (taken ++ rest).length by simp)
    exact .inr ⟨rfl, room.overflows full⟩
  case isFalse => exact .ok size _

theorem skipWhile {accepts : Char → Bool} (faces : cursor.Faces size (taken ++ rest))
    (all : ∀ c ∈ taken, accepts c = true) (stops : Stops accepts rest.head?) :
    Yields size (cursor.skipWhile accepts) (cursor.past taken) := by
  rw [skipWhile_eq faces.rest, Stops.runLength_append all stops]
  exact faces.nextn

end Cursor.Faces

namespace Scanner

variable {options : LexingOptions} {state : LexingState} {finding : Finding} {c : Char}
  {text lexeme rest others : List Char} {size : Nat}

theorem tries (family : Family) (faces : state.cursor.Faces size (c :: others)) :
    Tries options family state size (c :: others) := by
  cases family with
  | newlines => exact tries_newlines faces
  | comment => exact tries_comment faces
  | quoted => exact tries_quoted faces
  | number => exact tries_number faces
  | word => exact tries_word faces
  | operator => exact tries_operator faces
  | punctuation => exact tries_punctuation faces

/-- What is read ahead is recorded as the scanner does. -/
theorem commit_behind (faces : state.cursor.Faces size (lexeme ++ rest)) :
    Yields size (state.commit options { finding, length := lexeme.length })
      (state.behind options finding lexeme) := by
  have cut : state.cursor.textUpTo (state.cursor.past lexeme) = .ok lexeme :=
    (Cursor.restore_passes faces.rest).textUpTo faces.rest
  unfold LexingState.commit
  refine faces.nextn.bind ?_
  rw [cut]
  exact .ok size _

theorem scan_of_declined {family : Family} (faces : state.cursor.Faces size text)
    (declined : family.read text = .ok none) :
    Yields size (state.scan options family) (false, state) := by
  rw [LexingState.scan, faces.remaining, ok_bind, declined]
  exact .ok size _

theorem scan_of_reads {family : Family} (faces : state.cursor.Faces size (lexeme ++ rest))
    (reads : Yields size (family.read (lexeme ++ rest))
      (some { finding, length := lexeme.length })) :
    Yields size (state.scan options family) (true, state.behind options finding lexeme) := by
  rw [LexingState.scan, faces.remaining, ok_bind]
  exact reads.bind ((commit_behind faces).bind (.ok size _))

/-- A scanner answers what its family does. -/
theorem scan_agrees (family : Family) (faces : state.cursor.Faces size (c :: others)) :
    ∃ answer, Yields size (scan options state.cursor.place family state) answer ∧
      Yields size (state.scan options family) answer ∧
      (answer = (false, state) ∨ ∃ finding lexeme rest, c :: others = lexeme ++ rest ∧ lexeme ≠ [] ∧
        finding.OfScanner ∧ answer = (true, state.behind options finding lexeme)) := by
  rcases @tries options state c others size family faces with
    ⟨scans, reads⟩ | ⟨finding, lexeme, rest, split, found⟩
  · exact ⟨_, scans, scan_of_declined faces reads, .inl rfl⟩
  · refine ⟨_, found.scans, ?_,
      .inr ⟨finding, lexeme, rest, split, found.nonempty, found.ofScanner, rfl⟩⟩
    exact scan_of_reads (split ▸ faces) found.reads

/-! ## One step -/

/-- Letting the scanners try in turn is reading the first lexeme that a family has here. -/
theorem scanFirst_agrees (families : List Family) (faces : state.cursor.Faces size (c :: others)) :
    (Yields size (scanFirst options state.cursor.place families state) (false, state) ∧
        Family.readFirst families (c :: others) = .ok none) ∨
      ∃ finding lexeme rest, c :: others = lexeme ++ rest ∧ lexeme ≠ [] ∧
        Yields size (scanFirst options state.cursor.place families state)
          (true, state.behind options finding lexeme) ∧
        Yields size (Family.readFirst families (c :: others))
          (some { finding, length := lexeme.length }) := by
  induction families with
  | nil => exact .inl ⟨.ok size _, rfl⟩
  | cons family later ih =>
    rcases @tries options state c others size family faces with
      ⟨scans, reads⟩ | ⟨finding, lexeme, rest, split, found⟩
    · rcases ih with
        ⟨scansLater, readsLater⟩ |
        ⟨finding, lexeme, rest, split, nonempty, scansLater, readsLater⟩
      · refine .inl ⟨scans.bind scansLater, ?_⟩
        rw [Family.readFirst, reads]
        exact readsLater
      · refine .inr ⟨finding, lexeme, rest, split, nonempty, scans.bind scansLater, ?_⟩
        rw [Family.readFirst, reads]
        exact readsLater
    · refine .inr ⟨finding, lexeme, rest, split, found.nonempty, found.scans.bind (.ok size _), ?_⟩
      rw [split]
      exact found.reads.bind (.ok size _)

theorem scanFirst_of_declined {families : List Family}
    (declined : ∀ family ∈ families,
      scan options state.cursor.place family state = .ok (false, state)) :
    scanFirst options state.cursor.place families state = .ok (false, state) := by
  induction families with
  | nil => rfl
  | cons family later ih =>
    rw [scanFirst, declined family List.mem_cons_self, ok_bind]
    exact ih fun other member => declined other (List.mem_cons_of_mem _ member)

/-- A character that no scanner accepts is passed and reported. -/
theorem step_of_declined (faces : state.cursor.Faces size (c :: others))
    (scans : Yields size (scanFirst options state.cursor.place Family.all state) (false, state))
    (reads : Family.readFirst Family.all (c :: others) = .ok none) :
    Yields size (step options state) (state.behind options (.error (.unrecognized c)) [c]) ∧
      Yields size (state.step options) (state.behind options (.error (.unrecognized c)) [c]) := by
  have ahead : state.cursor.Faces size ([c] ++ others) := faces
  refine ⟨scans.bind (faces.next.bind (.inl (LexingState.closeError_behind ahead _))), ?_⟩
  rw [LexingState.step_eq faces.rest, readLexeme, reads]
  exact commit_behind ahead

/-- A step passes and records one lexeme, and so does a step that reads ahead. -/
theorem step_agrees (faces : state.cursor.Faces size (c :: others)) :
    ∃ finding lexeme rest, c :: others = lexeme ++ rest ∧ lexeme ≠ [] ∧
      Yields size (step options state) (state.behind options finding lexeme) ∧
      Yields size (state.step options) (state.behind options finding lexeme) := by
  rcases @scanFirst_agrees options state c others size Family.all faces with
    ⟨scans, reads⟩ | ⟨finding, lexeme, rest, split, nonempty, scans, reads⟩
  · exact ⟨.error (.unrecognized c), [c], others, rfl, by simp, step_of_declined faces scans reads⟩
  · refine ⟨finding, lexeme, rest, split, nonempty, scans.bind (.ok size _), ?_⟩
    rw [LexingState.step_eq faces.rest]
    refine (reads.map _).bind ?_
    exact commit_behind (split ▸ faces)

/-! ## A whole run -/

theorem skipBlanks_agrees (faces : state.cursor.Faces size text) :
    ∃ gap rest, text = gap ++ rest ∧
      Yields size (skipBlanks state) (state.moved (state.cursor.past gap)) ∧
      Yields size state.skipBlanks (state.moved (state.cursor.past gap)) := by
  obtain ⟨gap, rest, rfl, blank, stops⟩ := exists_run isBlank text
  exact ⟨gap, rest, rfl, (faces.eatWhile blank stops).map _,
    (faces.skipWhile blank stops).bind (.ok size _)⟩

/-- Where only blanks are left, both runs are over. -/
private theorem run_over {start : LexingState} (scans : Yields size (skipBlanks state) start)
    (reads : Yields size state.skipBlanks start) (ended : start.cursor.isAtEnd = true)
    (budget : Nat) :
    Yields size (run options budget state) start ∧
      Yields size (LexingState.run options budget state) start := by
  cases budget <;>
  · refine ⟨scans.bind ?_, reads.bind ?_⟩
    · rw [if_pos ended]
      exact .ok size start
    · rw [if_pos ended]
      exact .ok size start

/-- A run comes to the end of its text in no more steps than there are characters, and records what
a run that reads ahead does. -/
theorem run_agrees {budget : Nat} (faces : state.cursor.Faces size text)
    (enough : text.length ≤ budget) :
    ∃ final, Yields size (run options budget state) final ∧
      Yields size (LexingState.run options budget state) final ∧
      final.cursor = state.cursor.past text := by
  induction budget generalizing state text with
  | zero =>
    obtain rfl := List.eq_nil_of_length_eq_zero (Nat.le_zero.mp enough)
    obtain ⟨gap, rest, split, scans, reads⟩ := skipBlanks_agrees faces
    obtain ⟨rfl, rfl⟩ := List.append_eq_nil_iff.mp split.symm
    have ended : (state.moved (state.cursor.past [])).cursor.isAtEnd = true := by
      rw [Cursor.past_nil]
      exact faces.isAtEnd
    obtain ⟨ran, readRan⟩ := @run_over options _ _ _ scans reads ended 0
    exact ⟨_, ran, readRan, rfl⟩
  | succ budget ih =>
    obtain ⟨gap, rest, rfl, scans, reads⟩ := skipBlanks_agrees faces
    have ahead := faces.past
    cases rest with
    | nil =>
      have ended : (state.moved (state.cursor.past gap)).cursor.isAtEnd = true := ahead.isAtEnd
      obtain ⟨ran, readRan⟩ := @run_over options _ _ _ scans reads ended (budget + 1)
      refine ⟨_, ran, readRan, ?_⟩
      rw [List.append_nil]
      rfl
    | cons c others =>
      have goes : ¬ (state.moved (state.cursor.past gap)).cursor.isAtEnd = true := by
        rw [show (state.moved (state.cursor.past gap)).cursor.isAtEnd = false from ahead.isAtEnd]
        simp
      obtain ⟨finding, lexeme, tail, split, nonempty, stepped, readStepped⟩ :=
        @step_agrees options (state.moved (state.cursor.past gap)) c others size ahead
      have behind : ((state.moved (state.cursor.past gap)).behind options finding lexeme).cursor =
          state.cursor.past (gap ++ lexeme) := by
        rw [LexingState.behind, LexingState.record_cursor]
        exact Cursor.past_past state.cursor gap lexeme
      have shorter : tail.length ≤ budget := by
        have positive := List.length_pos_iff.mpr nonempty
        rw [split, List.length_append, List.length_append] at enough
        omega
      rw [split, ← List.append_assoc] at faces
      obtain ⟨final, ran, readRan, reached⟩ := ih (behind ▸ faces.past) shorter
      refine ⟨final, scans.bind ?_, reads.bind ?_, ?_⟩
      · rw [if_neg goes]
        exact stepped.bind ran
      · rw [if_neg goes]
        exact readStepped.bind readRan
      · rw [reached, behind, Cursor.past_past, List.append_assoc, split]

end Scanner

/-- A text has room for all of it from its beginning. -/
theorem Cursor.faces_ofText (source : List Char) :
    (ofText source).Faces (source.length + 1) source :=
  ⟨rfl, ⟨Nat.le_of_eq (Nat.add_comm 1 _), Nat.le_of_eq (Nat.add_comm 1 _), Nat.le_refl 1⟩⟩

/-- Scanning a text gives the lexing that reading it ahead does. -/
theorem Scanner.lexText_agrees (options : LexingOptions) (source : String) :
    ∃ lexing, Yields (source.length + 1) (Scanner.lexText options source) lexing ∧
      Yields (source.length + 1) (ScriptLexer.lexText options source) lexing := by
  have faces := Cursor.faces_ofText source.toList
  rw [String.length_toList] at faces
  obtain ⟨final, ran, readRan, _⟩ :=
    @run_agrees options { cursor := Cursor.ofText source.toList } _ _ _ faces (Nat.le_refl _)
  exact ⟨_, ran.bind (.ok _ _), readRan.bind (.ok _ _)⟩

end ScriptLexer
