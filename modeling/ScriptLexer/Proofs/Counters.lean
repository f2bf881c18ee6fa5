import ScriptLexer.Proofs.Run

/-!
# Room in the counters

A run that comes to its end has counted every character of its text without an overflow. What
matters to a text is the line and the column it starts on: further down or further right there is no
more room for it.
-/
namespace ScriptLexer

namespace Place

theorem overflows_append (place : Place) (a b : List Char) :
    place.overflows (a ++ b) = (place.overflows a || (place.past a).overflows b) := by
  induction a generalizing place with
  | nil => rfl
  | cons c rest ih => rw [List.cons_append, overflows, overflows, ih, past_cons, Bool.or_assoc]

/-- A text for which there is room has room on a line and a column that are no greater. -/
theorem overflows_mono {low high : Place} (line : low.line ≤ high.line)
    (column : low.column ≤ high.column) {text : List Char} (room : high.overflows text = false) :
    low.overflows text = false := by
  induction text generalizing low high with
  | nil => rfl
  | cons c rest ih =>
    rw [overflows, Bool.or_eq_false_iff] at room ⊢
    obtain ⟨here, later⟩ := room
    have lineAfter : (low.after c).line ≤ (high.after c).line := by
      unfold after
      split
      · exact Nat.succ_le_succ line
      · exact line
    have columnAfter : (low.after c).column ≤ (high.after c).column := by
      unfold after
      split
      · exact Nat.le_refl 1
      · exact Nat.succ_le_succ column
    refine ⟨?_, ih lineAfter columnAfter later⟩
    simp only [outOfRange, Bool.or_eq_false_iff, decide_eq_false_iff_not] at here ⊢
    omega

theorem one_le_past (text : List Char) :
    1 ≤ (({} : Place).past text).line ∧ 1 ≤ (({} : Place).past text).column := by
  have counted (place : Place) : 1 ≤ place.line ∧ 1 ≤ place.column →
      1 ≤ (place.past text).line ∧ 1 ≤ (place.past text).column := by
    induction text generalizing place with
    | nil => exact id
    | cons c rest ih =>
      rintro ⟨line, column⟩
      refine ih (place.after c) ?_
      unfold after
      split
      · exact ⟨Nat.le_add_left 1 _, Nat.le_refl 1⟩
      · exact ⟨line, Nat.le_add_left 1 _⟩
  exact counted {} ⟨Nat.le_refl 1, Nat.le_refl 1⟩

end Place

/-! ## What a cursor has read -/

namespace Cursor

variable {cursor after : Cursor} {text front back : List Char}

/-- A cursor is its place in its source. -/
theorem eq_of_place {other : Cursor} (source : cursor.source = other.source)
    (place : cursor.place = other.place) : cursor = other := by
  obtain ⟨_, _, rest, rest_eq⟩ := cursor
  obtain ⟨_, _, otherRest, other_eq⟩ := other
  obtain rfl := source
  obtain rfl := place
  obtain rfl : rest = otherRest := rest_eq.trans other_eq.symm
  rfl

theorem forward_eq {taken rest : List Char} (ahead : cursor.rest = some (taken ++ rest)) :
    cursor.forward taken rest ahead =
      if cursor.place.overflows taken then
        .error .counterOverflow
      else
        .ok (cursor.restore (cursor.place.past taken)) := by
  unfold forward
  split
  case isTrue => rfl
  case isFalse => exact congrArg Except.ok (eq_of_place rfl rfl)

/-- Passing characters only counts them: it fails exactly where a counter overflows. -/
theorem nextn_eq (ahead : cursor.rest = some text) (n : Nat) :
    cursor.nextn n =
      if cursor.place.overflows (text.take n) then
        .error .counterOverflow
      else
        .ok (cursor.restore (cursor.place.past (text.take n))) := by
  rw [nextn_of_rest ahead]
  split
  case isTrue none =>
    have empty : text.take n = [] := by
      rw [isAtEnd_of_rest ahead] at none
      simpa [or_comm] using none
    rw [empty]
    exact congrArg Except.ok (eq_of_place rfl rfl)
  case isFalse => exact forward_eq _

/-- Skipping is passing a whole run. -/
theorem skipWhile_eq (ahead : cursor.rest = some text) (accepts : Char → Bool) :
    cursor.skipWhile accepts = cursor.nextn (runLength accepts text) := by
  have run : text.take (runLength accepts text) = text.takeWhile accepts :=
    List.prefix_iff_eq_take.mp (List.takeWhile_prefix accepts) |>.symm
  rw [nextn_eq ahead, run]
  rw [skipWhile_of_rest ahead]
  split
  case isTrue atEnd =>
    rw [isAtEnd_of_rest ahead, List.isEmpty_iff] at atEnd
    subst atEnd
    exact congrArg Except.ok (eq_of_place rfl rfl)
  case isFalse => exact forward_eq _

theorem restore_passes {taken rest : List Char} (ahead : cursor.rest = some (taken ++ rest)) :
    cursor.Passes (cursor.restore (cursor.place.past taken)) taken rest := by
  have cut : Text.dropBytes (cursor.place.past taken).position cursor.source = some rest := by
    rw [Place.position_past]
    exact Text.dropBytes_add (cursor.rest_eq.symm.trans ahead)
  exact ⟨rfl, rfl, cut⟩

/-- The cursor stands behind `front`, with `back` ahead, and had room to count up to there. -/
structure HasRead (cursor : Cursor) (front back : List Char) : Prop where
  source : cursor.source = front ++ back
  place : cursor.place = ({} : Place).past front
  room : ({} : Place).overflows front = false

namespace HasRead

theorem rest (read : cursor.HasRead front back) : cursor.rest = some back := by
  rw [cursor.rest_eq, read.source, read.place, Place.position_past]
  exact Text.dropBytes_eq_some_iff.mpr ⟨front, rfl, (Nat.zero_add _).symm⟩

theorem nextn {n : Nat} (read : cursor.HasRead front back) (passed : cursor.nextn n = .ok after) :
    after.HasRead (front ++ back.take n) (back.drop n) := by
  rw [nextn_eq read.rest] at passed
  split at passed
  case isTrue => cases passed
  case isFalse room =>
    obtain rfl := Except.ok.inj passed
    constructor
    · rw [restore, read.source, List.append_assoc, List.take_append_drop]
    · rw [restore, read.place, Place.past_append]
    · rw [Place.overflows_append, read.room, Bool.false_or, ← read.place]
      exact Bool.eq_false_iff.mpr room

end HasRead

end Cursor

/-! ## Steps with room -/

namespace LexingState

variable {options : LexingOptions} {state : LexingState} {text : List Char}

/-- Where no blank stands ahead, none is skipped. -/
theorem skipBlanks_of_stops (ahead : state.cursor.rest = some text)
    (stops : Stops isBlank text.head?) : state.skipBlanks = .ok state := by
  have noBlanks : runLength isBlank text = 0 := by
    cases text with
    | nil => rfl
    | cons c others => simp [runLength, Stops.some_iff.mp stops]
  have stays : state.cursor.nextn 0 = .ok state.cursor := by simp [Cursor.nextn]
  rw [skipBlanks, Cursor.skipWhile_eq ahead, noBlanks, stays]
  rfl

/-- At the end of the text a run is over. -/
theorem run_atEnd (ended : state.cursor.rest = some []) (budget : Nat) :
    run options budget state = .ok state := by
  have skipped := skipBlanks_of_stops ended (by simp)
  have atEnd : state.cursor.isAtEnd = true := Cursor.isAtEnd_of_rest ended
  unfold run
  rw [skipped]
  simp only [bind, Except.bind, atEnd, if_true]
  rfl

/-- Before a lexeme a run goes on with the step that passes it. -/
theorem run_succ {c : Char} {others : List Char} (ahead : state.cursor.rest = some (c :: others))
    (noBlank : isBlank c = false) (budget : Nat) :
    run options (budget + 1) state = state.step options >>= run options budget := by
  have skipped := skipBlanks_of_stops ahead (Stops.some_iff.mpr noBlank)
  have goes : ¬ state.cursor.isAtEnd = true := by
    rw [Cursor.isAtEnd_of_rest ahead]
    simp
  conv => lhs; unfold run
  rw [skipped]
  simp only [bind, Except.bind, if_neg goes]

/-- Once its characters are passed, a reading is recorded. -/
theorem commit_of_passes {finding : Finding} {lexeme rest : List Char} {stop : Cursor}
    (ahead : state.cursor.rest = some (lexeme ++ rest))
    (passed : state.cursor.nextn lexeme.length = .ok stop)
    (behind : state.cursor.Passes stop lexeme rest) :
    state.commit options { finding, length := lexeme.length } =
      .ok (({ state with cursor := stop } : LexingState).record options finding
        (String.ofList lexeme) (Span.between state.cursor.place stop.place)) := by
  unfold commit
  rw [passed]
  simp only [bind, Except.bind, behind.textUpTo ahead]
  rfl

/-- A reading is committed where there is room to count its lexeme. -/
theorem commit_of_room {finding : Finding} {lexeme rest : List Char}
    (ahead : state.cursor.rest = some (lexeme ++ rest))
    (room : state.cursor.place.overflows lexeme = false) :
    ∃ after, state.commit options { finding, length := lexeme.length } = .ok after ∧
      after.cursor.rest = some rest := by
  have behind := Cursor.restore_passes ahead
  have passed : state.cursor.nextn lexeme.length =
      .ok (state.cursor.restore (state.cursor.place.past lexeme)) := by
    rw [Cursor.nextn_eq ahead, List.take_left, room]
    rfl
  refine ⟨_, commit_of_passes ahead passed behind, ?_⟩
  rw [record_cursor]
  exact behind.rest

end LexingState

/-! ## Runs that come to their end -/

/-- Where a sequence has a result, so have its parts. -/
theorem exists_of_bind_eq_ok {α β : Type} {result : Except Fault α} {next : α → Except Fault β}
    {value : β} (done : result >>= next = .ok value) :
    ∃ middle, result = .ok middle ∧ next middle = .ok value := by
  cases result with
  | error fault => cases done
  | ok middle => exact ⟨middle, rfl, done⟩

namespace LexingState

variable {options : LexingOptions} {state after final : LexingState} {front back : List Char}

theorem commit_hasRead {reading : Reading} (read : state.cursor.HasRead front back)
    (done : state.commit options reading = .ok after) :
    after.cursor.HasRead (front ++ back.take reading.length) (back.drop reading.length) := by
  obtain ⟨stop, passed, done⟩ := exists_of_bind_eq_ok done
  obtain ⟨lexeme, _, done⟩ := exists_of_bind_eq_ok done
  obtain rfl := Except.ok.inj done
  rw [record_cursor]
  exact read.nextn passed

theorem step_hasRead {c : Char} {others : List Char}
    (read : state.cursor.HasRead front (c :: others)) (done : state.step options = .ok after) :
    ∃ n, after.cursor.HasRead (front ++ (c :: others).take n) ((c :: others).drop n) := by
  rw [step_eq read.rest] at done
  obtain ⟨reading, _, committed⟩ := exists_of_bind_eq_ok done
  exact ⟨reading.length, commit_hasRead read committed⟩

theorem skipBlanks_hasRead (read : state.cursor.HasRead front back)
    (done : state.skipBlanks = .ok after) :
    ∃ n, after.cursor.HasRead (front ++ back.take n) (back.drop n) := by
  obtain ⟨stop, skipped, done⟩ := exists_of_bind_eq_ok done
  obtain rfl := Except.ok.inj done
  rw [Cursor.skipWhile_eq read.rest] at skipped
  exact ⟨_, read.nextn skipped⟩

/-- What is behind the cursor after it went on, and what is ahead, is the same text as before. -/
theorem hasRead_end {n : Nat} (read : final.cursor.HasRead (front ++ back.take n) (back.drop n))
    (atEnd : final.cursor.isAtEnd = true) : final.cursor.HasRead (front ++ back) [] := by
  rw [Cursor.isAtEnd_of_rest read.rest, List.isEmpty_iff] at atEnd
  have whole : back.take n = back := by
    have split := List.take_append_drop n back
    rwa [atEnd, List.append_nil] at split
  rwa [whole, atEnd] at read

/-- A run that comes to its end has read all of its text. -/
theorem run_hasRead {budget : Nat} (read : state.cursor.HasRead front back)
    (done : run options budget state = .ok final) : final.cursor.HasRead (front ++ back) [] := by
  induction budget generalizing state front back with
  | zero =>
    obtain ⟨start, skipped, done⟩ := exists_of_bind_eq_ok done
    obtain ⟨n, there⟩ := skipBlanks_hasRead read skipped
    split at done
    case isTrue atEnd =>
      obtain rfl := Except.ok.inj done
      exact hasRead_end there atEnd
    case isFalse => cases done
  | succ budget ih =>
    obtain ⟨start, skipped, done⟩ := exists_of_bind_eq_ok done
    obtain ⟨n, there⟩ := skipBlanks_hasRead read skipped
    split at done
    case isTrue atEnd =>
      obtain rfl := Except.ok.inj done
      exact hasRead_end there atEnd
    case isFalse goes =>
      obtain ⟨after, stepped, done⟩ := exists_of_bind_eq_ok done
      rw [Cursor.isAtEnd_of_rest there.rest, List.isEmpty_iff] at goes
      obtain ⟨c, others, ahead⟩ := List.exists_cons_of_ne_nil goes
      rw [ahead] at there
      obtain ⟨m, behind⟩ := step_hasRead there stepped
      have read := ih behind done
      rwa [List.append_assoc, List.take_append_drop, List.append_assoc, ← ahead,
        List.take_append_drop] at read

end LexingState

/-- A text with a lexing is counted without an overflow. -/
theorem overflows_eq_false_of_lexText {options : LexingOptions} {source : String} {lexing : Lexing}
    (done : lexText options source = .ok lexing) :
    ({} : Place).overflows source.toList = false := by
  obtain ⟨final, ran, _⟩ := exists_of_bind_eq_ok done
  have start : (Cursor.ofText source.toList).HasRead [] source.toList := ⟨rfl, rfl, rfl⟩
  exact (LexingState.run_hasRead start ran).room

end ScriptLexer
