import ScriptLexer.Proofs.Cursor.Tracking
import ScriptLexer.Proofs.Text.Longest

/-!
# What is shown ahead

A cursor shows characters ahead of it, by bytes as long as these are ASCII, cuts off a stretch of
them, and compares them with a text. Wherever a session has come to, it shows what it is going to
pass, and it asks about a character only if there is one.
-/
namespace ScriptLexer

open Session

namespace Cursor

variable {cursor : Cursor} {text : List Char}

theorem passNth_passes (ahead : cursor.rest = some text) (n : Nat) :
    cursor.PassesBy (cursor.passNth n) (text.take (n + 1)) (text[n]?.getD endMark) := by
  induction n generalizing cursor text with
  | zero =>
    rw [← List.head?_eq_getElem?]
    exact passOne_passes ahead
  | succ n ih =>
    rw [passNth]
    cases text with
    | nil =>
      rw [passOne_of_end ahead]
      exact ih ahead
    | cons c rest => exact .cons ahead (ih (rest_past_one ahead))

/-- The last character asked about is the one behind those accepted, if there is one. -/
theorem heeded_snd {σ : Type} (question : Char → σ → Bool × σ) (memory : σ) (text : List Char) :
    (heeded question memory text).2 =
      (text.take ((heeded question memory text).1.length + 1)).foldl
        (fun memory c => (question c memory).2) memory := by
  induction text generalizing memory with
  | nil => rfl
  | cons c rest ih =>
    rw [heeded]
    rcases asked : question c memory with ⟨_ | _, next⟩
    · simp [asked]
    · simp [asked, ih next]

end Cursor

/-- Accepts a character as `accepts` does and takes a note of it. -/
def noting (accepts : Char → Bool) (c : Char) (asked : List Char) : Bool × List Char :=
  (accepts c, asked ++ [c])

theorem noting_fst (accepts : Char → Bool) (c : Char) (asked : List Char) :
    (noting accepts c asked).1 = accepts c := rfl

theorem foldl_noting (accepts : Char → Bool) (asked text : List Char) :
    text.foldl (fun asked c => (noting accepts c asked).2) asked = asked ++ text := by
  induction text generalizing asked with
  | nil => simp
  | cons c rest ih =>
    rw [List.foldl_cons, ih]
    simp [noting]

namespace Cursor

/-- From `start` to `stop` the text `passed` is passed, with `rest` behind it, and cut out again. -/
structure Consumes (start stop : Cursor) (passed rest : List Char) : Prop where
  passes : start.Passes stop passed rest
  since : stop.textSince start.place.position = .ok passed

namespace Faces

variable {cursor : Cursor} {size : Nat} {ahead passed rest : List Char}

theorem cutAhead (faces : cursor.Faces size ahead) (n : Nat) :
    cursor.cutAhead n = .ok (ahead.take n) := by
  rw [cutAhead_eq_take, take, faces.remaining]
  rfl

theorem consumes (faces : cursor.Faces size (passed ++ rest)) :
    cursor.Consumes (cursor.past passed) passed rest :=
  ⟨restore_passes faces.rest, faces.textSince⟩

/-- Asking for characters asks about those of the longest run that is accepted, and about the one
behind it. -/
theorem passWhile_noting {accepts : Char → Bool} (faces : cursor.Faces size (passed ++ rest))
    (longest : Longest (fun text => ∀ c ∈ text, accepts c = true) passed rest)
    (room : cursor.place.overflows passed = false) :
    cursor.passWhile (noting accepts) cursor.turns [] =
      { answer := .ok (passed ++ rest.take 1), after := cursor.past passed } := by
  obtain ⟨all, stops⟩ := Longest.run_iff.mp longest
  have run : (heeded (noting accepts) [] (passed ++ rest)).1 = passed := by
    rw [heeded_fst (noting_fst accepts)]
    exact Stops.takeWhile_append all stops
  have asked : (heeded (noting accepts) [] (passed ++ rest)).2 = passed ++ rest.take 1 := by
    rw [heeded_snd, foldl_noting, run, List.nil_append, List.take_length_add_append]
  have passes := passWhile_passes (noting accepts) [] faces.rest faces.length_lt_turns
  rw [run, asked] at passes
  exact passes.counted room

theorem skipWhile_run {accepts : Char → Bool} (faces : cursor.Faces size (passed ++ rest))
    (longest : Longest (fun text => ∀ c ∈ text, accepts c = true) passed rest)
    (room : cursor.place.overflows passed = false) :
    cursor.skipWhile accepts = .ok (cursor.past passed) := by
  have settled := settled_passWhile (noting_fst accepts) cursor []
  rw [faces.passWhile_noting longest room] at settled
  exact settled.symm

end Faces

end Cursor

/-- Of the source, `ahead` lies ahead of the session, and what the session shows is what it gets by
passing it. Only a counter can keep it from that, on a source too long to be counted. -/
structure ShowsAhead (source : List Char) (session : Session) (ahead : List Char) : Prop where
  split : ∃ front, source = front ++ ahead ∧ Text.byteLength front = session.cursor.place.position
  remaining : session.cursor.remaining = .ok ahead
  room : source.length + 1 < counterLimit → ∀ taken, taken <+: ahead →
    session.cursor.place.overflows taken = false
  /-- By bytes or by characters, what is shown is what the last of as many moves answers. -/
  character : ∀ n, session.cursor.look n = .ok (ahead[n]?.getD endMark) ∧
    session.cursor.peek n = session.cursor.look n ∧
    (session.cursor.place.overflows (ahead.take (n + 1)) = false →
      (session.cursor.passNth n).answer = session.cursor.look n)
  stretch : ∀ n, ∃ passed rest, ahead = passed ++ rest ∧ passed.length = min n ahead.length ∧
    session.cursor.cutAhead n = .ok passed ∧ session.cursor.take n = .ok passed ∧
    (session.cursor.place.overflows passed = false →
      ∃ after, session.cursor.passMany n = { answer := .ok (), after } ∧
        session.cursor.nextn n = .ok after ∧ session.cursor.Consumes after passed rest)
  lead : ∀ lead, ∃ holds, session.cursor.startsWith lead = .ok holds ∧
    (holds = true ↔ session.cursor.cutAhead lead.length = .ok lead)
  /-- The characters asked about are those of the longest run, and the one behind it if there is
  one. -/
  run : ∀ accepts : Char → Bool, ∃ passed rest, ahead = passed ++ rest ∧
    Longest (fun text => ∀ c ∈ text, accepts c = true) passed rest ∧
    (session.cursor.place.overflows passed = false →
      ∃ after, session.cursor.passWhile (noting accepts) session.cursor.turns [] =
          { answer := .ok (passed ++ rest.take 1), after } ∧
        session.cursor.skipWhile accepts = .ok after ∧ session.cursor.Consumes after passed rest)
  stays : ∀ operation : Operation, operation.isLook = true →
    (session.perform operation).after = session

/-- Wherever a session has come to on its own, it shows what lies ahead. -/
theorem reached_showsAhead {source : List Char} {operations : List Operation}
    (own : ∀ operation ∈ operations, operation.isOwn = true) :
    ∃ ahead, ShowsAhead source ((start source).after operations) ahead := by
  obtain ⟨front, ahead, parts, faces⟩ := (after_sound source own).cursor.exists_faces
  refine ⟨ahead, ?_⟩
  constructor
  case split => exact ⟨front, parts.split, parts.position.symm⟩
  case remaining => exact faces.remaining
  case room => exact fun short taken leads => faces.overflows_eq_false short leads
  case character =>
    intro n
    have shown := faces.look n
    refine ⟨shown, (Cursor.look_eq_peek _ n).symm, ?_⟩
    intro room
    rw [(Cursor.passNth_passes faces.rest n).counted room, shown]
  case stretch =>
    intro n
    have cut := faces.cutAhead n
    refine ⟨ahead.take n, ahead.drop n, (List.take_append_drop n ahead).symm, List.length_take, cut,
      (Cursor.cutAhead_eq_take _ n).symm.trans cut, ?_⟩
    intro room
    have passed := (Cursor.passMany_passes faces.rest n).counted room
    have settled := Cursor.settled_passMany ((start source).after operations).cursor n
    rw [passed] at settled
    rw [← List.take_append_drop n ahead] at faces
    exact ⟨_, passed, settled.symm, faces.consumes⟩
  case lead =>
    intro lead
    refine ⟨_, faces.startsWith lead, ?_⟩
    rw [faces.cutAhead, List.isPrefixOf_iff_prefix, List.prefix_iff_eq_take, Except.ok.injEq]
    exact eq_comm
  case run =>
    intro accepts
    obtain ⟨passed, rest, rfl, all, stops⟩ := exists_run accepts ahead
    have longest := Longest.run_iff.mpr ⟨all, stops⟩
    refine ⟨passed, rest, rfl, longest, ?_⟩
    intro room
    exact ⟨_, faces.passWhile_noting longest room, faces.skipWhile_run longest room, faces.consumes⟩
  case stays => exact fun operation look => perform_look look

/-- Behind a wide character, a zero character of the source is shown and passed like any other, and
past the end nothing is asked about. -/
theorem reached_showsAhead_endMark :
    ∃ ahead, ahead = "\x00b".toList ∧
      ShowsAhead "é\x00b".toList ((start "é\x00b".toList).after [.save, .nextn 9, .goBack 0, .next])
        ahead ∧
      ((reached "é\x00b".toList [.next]).passWhile (noting fun _ => true) 4 []).answer =
        .ok ahead := by
  obtain ⟨ahead, shows⟩ := @reached_showsAhead "é\x00b".toList [.save, .nextn 9, .goBack 0, .next]
    (by simp [Operation.isOwn])
  have found : ((start "é\x00b".toList).after
      [.save, .nextn 9, .goBack 0, .next]).cursor.remaining = .ok "\x00b".toList := by
    decide +kernel
  obtain rfl : ahead = "\x00b".toList := Except.ok.inj (shows.remaining.symm.trans found)
  exact ⟨_, rfl, shows, by decide +kernel⟩

end ScriptLexer
