import ScriptLexer.Proofs.Cursor.Sessions
import ScriptLexer.Proofs.Positions

/-!
# Keeping track of the place

A cursor keeps an offset, a line and a column, and changes each on its own. Whatever a session has
done to get there, forwards or back to a saved place, the three say the same: how much of the source
is behind the cursor.
-/
namespace ScriptLexer

open Session

variable {source : List Char} {operations : List Operation}

/-- Where there is room for all characters, none of those ahead overflows a counter. -/
theorem Cursor.Faces.overflows_eq_false {cursor : Cursor} {size : Nat} {taken ahead : List Char}
    (faces : cursor.Faces size ahead) (short : size < counterLimit) (leads : taken <+: ahead) :
    cursor.place.overflows taken = false := by
  by_contra full
  have long := (faces.room.mono leads.length_le).overflows (Bool.not_eq_false _ ▸ full)
  omega

/-- Where there is room for all characters, whatever moves the cursor on its own is done. -/
theorem Session.Sound.moves {session : Session} (sound : session.Sound source)
    (short : source.length + 1 < counterLimit) {operation : Operation}
    (own : operation.isOwn = true) (moves : operation.isLook = false) :
    ∃ answer, (session.perform operation).answer = .ok answer := by
  obtain ⟨front, back, parts, faces⟩ := sound.cursor.exists_faces
  have passed {α : Type} {attempt : Attempt Cursor α} {taken : List Char} {value : α}
      (encode : α → Answer) (passes : session.cursor.PassesBy attempt taken value)
      (leads : taken <+: back) :
      ∃ answer, (session.moves encode attempt).answer = .ok answer := by
    rw [passes.counted (faces.overflows_eq_false short leads)]
    exact ⟨encode value, rfl⟩
  cases operation with
  | next => exact passed .character (Cursor.passOne_passes faces.rest) (List.take_prefix 1 back)
  | nextn n =>
    exact passed (fun _ => .done) (Cursor.passMany_passes faces.rest n) (List.take_prefix n back)
  | skipWhile accepts memory =>
    have enough := faces.length_lt_turns
    exact passed (fun _ => .done) (Cursor.passWhile_passes accepts memory faces.rest enough)
      (Cursor.heeded_leads accepts memory back)
  | save => exact ⟨.done, rfl⟩
  | goBack index =>
    rw [perform]
    split <;> exact ⟨.done, rfl⟩
  | restore place => cases own
  | _ => cases moves

/-- Where operations on a source lead to, and what can be done from there. -/
structure Tracks (source : List Char) (operations : List Operation) : Prop where
  inside : (reached source operations).place.position ≤ Text.byteLength source ∧
    Text.IsOffset (reached source operations).place.position source
  counted : ∃ front back, source = front ++ back ∧
    Text.byteLength front = (reached source operations).place.position ∧
    (reached source operations).place.line = 1 + front.count '\n' ∧
    (reached source operations).place.column = 1 + (Text.lastLine front).length
  /-- No further move fails. -/
  goesOn : ∀ operation : Operation, operation.isOwn = true → operation.isLook = false →
    ∃ answer, (((start source).after operations).perform operation).answer = .ok answer
  /-- From where the cursor was at any time before, unless that is further on, it has the text up to
  here. -/
  since : ∀ earlier, earlier <+: operations →
    (reached source earlier).place.position ≤ (reached source operations).place.position →
    ∃ front between back, source = front ++ (between ++ back) ∧
      Text.byteLength front = (reached source earlier).place.position ∧
      Text.byteLength (front ++ between) = (reached source operations).place.position ∧
      (reached source operations).textSince (reached source earlier).place.position = .ok between
  /-- Any other way to the same offset leads to the same cursor. -/
  determined : ∀ others : List Operation, (∀ operation ∈ others, operation.isOwn = true) →
    (reached source others).place.position = (reached source operations).place.position →
    reached source others = reached source operations

/-- A cursor that goes back to places of its own alone, on a source that can be counted, has the
line and the column of its offset. -/
theorem operations_tracked (short : source.length + 1 < counterLimit)
    (own : ∀ operation ∈ operations, operation.isOwn = true) : Tracks source operations := by
  have sound := after_sound source own
  obtain ⟨front, back, parts⟩ := sound.cursor.within
  have place : (reached source operations).place = ({} : Place).past front :=
    parts.counted.resolve_right (by omega)
  have position := parts.position
  constructor
  case inside =>
    have offset : Text.IsOffset (reached source operations).place.position source :=
      ⟨front, back, parts.split, position.symm⟩
    exact ⟨offset.le, offset⟩
  case counted =>
    refine ⟨front, back, parts.split, position.symm, ?_, ?_⟩
    · rw [place, Place.past_front]
    · rw [place, Place.past_front]
  case goesOn => exact fun operation own moves => sound.moves short own moves
  case since =>
    intro earlier leads le
    have soundBefore := after_sound source fun operation member => own operation (leads.mem member)
    obtain ⟨before, behind, partsBefore⟩ := soundBefore.cursor.within
    have begun := partsBefore.position
    obtain ⟨between, rfl, rfl⟩ := Text.exists_append_of_byteLength_le
      (partsBefore.split.symm.trans parts.split) (by rw [← begun, ← position]; exact le)
    refine ⟨before, between, back, partsBefore.split, begun.symm, position.symm, ?_⟩
    refine Cursor.textSince_eq_ok_iff.mpr ⟨before, back, ?_, begun.symm, ?_⟩
    · exact sound.cursor.same.trans partsBefore.split
    · rw [Text.byteLength_append, ← begun] at position
      exact position.symm
  case determined =>
    intro others ownOthers same
    have soundOther := after_sound source ownOthers
    obtain ⟨other, rest, partsOther⟩ := soundOther.cursor.within
    have sameFront : other = front :=
      Text.eq_of_byteLength_eq (partsOther.split.symm.trans parts.split)
      (partsOther.position.symm.trans (same.trans position))
    have placeOther : (reached source others).place = ({} : Place).past other :=
      partsOther.counted.resolve_right (by omega)
    refine Cursor.eq_of_place (soundOther.cursor.same.trans sound.cursor.same.symm) ?_
    rw [placeOther, place, sameFront]

/-- Skipping to the end and back again changes nothing: behind a wide character and a line break the
cursor is on the second line, as it is when it goes straight there. -/
theorem operations_tracked_goBack :
    (reached "aé\nb".toList
      [.next, .save, .skipWhile (fun _ asked => (true, asked)) (), .goBack 0, .nextn 2]).place =
        ⟨4, 2, 1⟩ ∧
    reached "aé\nb".toList [.nextn 3] = reached "aé\nb".toList
      [.next, .save, .skipWhile (fun _ asked => (true, asked)) (), .goBack 0, .nextn 2] ∧
    (reached "aé\nb".toList [.next, .save, .skipWhile (fun _ asked => (true, asked)) (), .goBack 0,
      .nextn 2]).textSince 1 = .ok "é\n".toList := by
  have tracked := @operations_tracked "aé\nb".toList
    [.next, .save, .skipWhile (fun _ asked => (true, asked)) (), .goBack 0, .nextn 2] (by decide)
    (by simp [Operation.isOwn])
  refine ⟨by decide +kernel,
    tracked.determined [.nextn 3] (by simp [Operation.isOwn]) (by decide +kernel), ?_⟩
  decide +kernel

end ScriptLexer
