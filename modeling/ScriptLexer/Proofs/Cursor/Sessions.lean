import ScriptLexer.Cursor.Session
import ScriptLexer.Proofs.Cursor.Attempts

/-!
# Sessions with a cursor

As long as a session only goes back to places that it has saved, its cursor stays between two
characters of the source, and what it has passed is counted right as long as it can be counted at
all.
-/
namespace ScriptLexer

namespace Session

variable {session : Session} {source : List Char} {operation : Operation}
  {operations : List Operation}

/-- What every single operation keeps, all of them keep. -/
theorem after_keeps {holds : Session → Prop} {allowed : Operation → Prop}
    (step : ∀ session operation, allowed operation → holds session →
      holds (session.perform operation).after)
    (all : ∀ operation ∈ operations, allowed operation) (held : holds session) :
    holds (session.after operations) := by
  induction operations generalizing session with
  | nil => exact held
  | cons operation others ih =>
    obtain ⟨here, later⟩ := List.forall_mem_cons.mp all
    exact ih later (step session operation here held)

theorem perform_look (look : operation.isLook = true) :
    (session.perform operation).after = session := by
  cases operation with
  | peek _ | take _ | startsWith _ | remaining | textSince _ => rfl
  | _ => cases look

end Session

/-! ## The source stays -/

theorem Cursor.passOne_source (cursor : Cursor) : cursor.passOne.after.source = cursor.source := by
  unfold passOne
  split
  case h_1 => rfl
  case h_2 => rfl
  case h_3 => split <;> rfl

namespace Session

variable {session : Session} {source : List Char}

theorem perform_source (kept : session.cursor.source = source) (operation : Operation) :
    (session.perform operation).after.cursor.source = source := by
  have one : ∀ cursor : Cursor, cursor.source = source → cursor.passOne.after.source = source :=
    fun cursor same => cursor.passOne_source.trans same
  cases operation with
  | next => exact one session.cursor kept
  | nextn n => exact Cursor.passMany_keeps one n kept
  | skipWhile accepts memory => exact Cursor.passWhile_keeps one accepts _ memory kept
  | goBack index =>
    rw [perform]
    split <;> exact kept
  | _ => exact kept

theorem after_source (session : Session) (operations : List Operation) :
    (session.after operations).cursor.source = session.cursor.source :=
  @after_keeps session operations (fun later => later.cursor.source = session.cursor.source)
    (fun _ => True) (fun _ operation _ kept => perform_source kept operation)
    (fun _ _ => trivial) rfl

end Session

/-! ## Places of the source -/

/-- The place is the end of `front`, with `back` behind it and room to count it. It is counted
through `front`, unless the source has more characters than a counter can count. -/
structure Place.Parts (source : List Char) (place : Place) (front back : List Char) : Prop where
  split : source = front ++ back
  position : place.position = Text.byteLength front
  room : place.Room (source.length + 1) back.length
  counted : place = ({} : Place).past front ∨ counterLimit ≤ source.length + 1

/-- The place parts the source. -/
def Place.Within (source : List Char) (place : Place) : Prop :=
  ∃ front back, place.Parts source front back

namespace Place

variable {source front back : List Char} {place : Place}

theorem within_start (source : List Char) : ({} : Place).Within source :=
  have all : 1 + source.length ≤ source.length + 1 := Nat.le_of_eq (Nat.add_comm _ _)
  ⟨[], source, rfl, rfl, ⟨all, all, Nat.le_refl 1⟩, .inl rfl⟩

theorem Parts.dropBytes (parts : place.Parts source front back) :
    Text.dropBytes place.position source = some back :=
  Text.dropBytes_eq_some_iff.mpr ⟨front, parts.split, parts.position.symm⟩

/-- A place from which the next character is ahead parts the source behind it as well, whether it is
counted or not. -/
theorem Parts.next {c : Char} {rest : List Char} (parts : place.Parts source front (c :: rest)) :
    (place.after c).Within source ∧
      ((place.after c).outOfRange = true →
        { place with position := place.position + c.utf8Size }.Within source) := by
  have split : source = (front ++ [c]) ++ rest := by rw [parts.split, List.append_assoc]; rfl
  have size : place.position + c.utf8Size = Text.byteLength (front ++ [c]) := by
    simp [parts.position]
  constructor
  · refine ⟨front ++ [c], rest, split, ?_, parts.room.after c, ?_⟩
    · rw [position_after, size]
    · rcases parts.counted with rfl | long
      · exact .inl (past_append {} front [c]).symm
      · exact .inr long
  · intro full
    have room := parts.room.mono (show rest.length ≤ (c :: rest).length by simp)
    have one : place.Room (source.length + 1) [c].length := parts.room.mono (by simp)
    refine ⟨front ++ [c], rest, split, size, ⟨room.line, room.column, room.one_le⟩, .inr ?_⟩
    exact one.overflows (by rw [overflows, full]; rfl)

end Place

/-- The cursor stands in the source, at a place that parts it. -/
structure Cursor.StandsIn (source : List Char) (cursor : Cursor) : Prop where
  same : cursor.source = source
  within : cursor.place.Within source

namespace Cursor.StandsIn

variable {source : List Char} {cursor : Cursor}

theorem restore {place : Place} (stands : cursor.StandsIn source) (within : place.Within source) :
    (cursor.restore place).StandsIn source := ⟨stands.same, within⟩

/-- What lies ahead is the other part of the source. -/
theorem exists_faces (stands : cursor.StandsIn source) :
    ∃ front back, cursor.place.Parts source front back ∧ cursor.Faces (source.length + 1) back := by
  obtain ⟨front, back, parts⟩ := stands.within
  refine ⟨front, back, parts, ?_, parts.room⟩
  rw [cursor.rest_eq, stands.same, parts.dropBytes]

theorem passOne (stands : cursor.StandsIn source) : cursor.passOne.after.StandsIn source := by
  obtain ⟨front, back, parts, faces⟩ := stands.exists_faces
  cases back with
  | nil =>
    rw [passOne_of_end faces.rest]
    exact stands
  | cons c rest =>
    obtain ⟨counted, moved⟩ := parts.next
    rw [passOne_of_cons faces.rest]
    split
    case isTrue full => exact stands.restore (moved full)
    case isFalse => exact stands.restore counted

end Cursor.StandsIn

/-- The cursor and all saved places are where the source parts. -/
structure Session.Sound (source : List Char) (session : Session) : Prop where
  cursor : session.cursor.StandsIn source
  saved : ∀ place ∈ session.saved, place.Within source

namespace Session

variable {session : Session} {source : List Char} {operation : Operation}
  {operations : List Operation}

theorem sound_start (source : List Char) : (start source).Sound source :=
  ⟨⟨rfl, Place.within_start source⟩, fun _ marked => by cases marked⟩

theorem perform_sound (own : operation.isOwn = true) (sound : session.Sound source) :
    (session.perform operation).after.Sound source := by
  have one : ∀ cursor : Cursor, cursor.StandsIn source → cursor.passOne.after.StandsIn source :=
    fun _ stands => stands.passOne
  cases operation with
  | next => exact ⟨one _ sound.cursor, sound.saved⟩
  | nextn n => exact ⟨Cursor.passMany_keeps one n sound.cursor, sound.saved⟩
  | skipWhile accepts memory =>
    exact ⟨Cursor.passWhile_keeps one accepts _ memory sound.cursor, sound.saved⟩
  | save =>
    refine ⟨sound.cursor, ?_⟩
    intro place member
    rcases List.mem_append.mp member with before | here
    · exact sound.saved place before
    · rw [List.mem_singleton.mp here]
      exact sound.cursor.within
  | goBack index =>
    rw [perform]
    split
    case h_1 place found =>
      exact ⟨sound.cursor.restore (sound.saved place (List.mem_of_getElem? found)), sound.saved⟩
    case h_2 => exact sound
  | restore place => cases own
  | _ => exact sound

/-- Whatever a session does on its own, the cursor stays where the source parts. -/
theorem after_sound (source : List Char) (own : ∀ operation ∈ operations, operation.isOwn = true) :
    ((start source).after operations).Sound source :=
  after_keeps (fun _ _ own sound => perform_sound own sound) own (sound_start source)

end Session

end ScriptLexer
