import ScriptLexer.Proofs.Cursor.Sessions

/-!
# Cuts outside the text

A saved place can be changed, and a cursor goes to any place it is told to. From then on an
operation that would cut the source inside a character or past its end is a fault. Each operation
cuts in its own way: some look first whether the end is reached, and one cuts at two offsets. None
has moved the cursor by the time it cuts wrongly.
-/
namespace ScriptLexer

open Session

/-- Standing at the offset `position` of the source, the operation would cut outside it. -/
def Operation.cutsOutside (source : List Char) (position : Nat) : Operation → Prop
  | .peek _ | .take _ | .startsWith _ | .remaining | .next => ¬ Text.IsOffset position source
  | .nextn n => 0 < n ∧ position < Text.byteLength source ∧ ¬ Text.IsOffset position source
  | .skipWhile _ _ => position < Text.byteLength source ∧ ¬ Text.IsOffset position source
  | .textSince start =>
    position < start ∨ ¬ Text.IsOffset start source ∨ ¬ Text.IsOffset position source
  | .save | .goBack _ | .restore _ => False

/-- Walking over what lies ahead takes a counter past its limit. -/
def Cursor.Overflows (cursor : Cursor) : Prop :=
  ∃ ahead, cursor.rest = some ahead ∧ cursor.place.overflows ahead = true

/-- Where it is `bad`, the attempt cuts outside the text and has left `before` as it was; elsewhere
only a counter makes it a fault. -/
structure FailsWhere {σ α : Type} (before : σ) (attempt : Attempt σ α) (bad overflow : Prop) :
    Prop where
  cuts : bad → attempt = { answer := .error .outsideText, after := before }
  counts : ¬ bad → ∀ fault, attempt.answer = .error fault → fault = .counterOverflow ∧ overflow

theorem Place.overflows_of_prefix {place : Place} {taken ahead : List Char}
    (leads : taken <+: ahead) (full : place.overflows taken = true) :
    place.overflows ahead = true := by
  obtain ⟨behind, rfl⟩ := leads
  rw [overflows_append, full, Bool.true_or]

theorem exists_error_of_map {α β : Type} {result : Except Fault α} {encode : α → β} {fault : Fault}
    (failed : result.map encode = .error fault) : result = .error fault := by
  cases result with
  | error other => exact congrArg Except.error (Except.error.inj failed)
  | ok value => cases failed

namespace Cursor

variable {cursor : Cursor} {ahead taken : List Char}

theorem PassesBy.fault {α : Type} {value : α} {attempt : Attempt Cursor α}
    (ahead_eq : cursor.rest = some ahead) (passes : cursor.PassesBy attempt taken value)
    (leads : taken <+: ahead) {fault : Fault} (failed : attempt.answer = .error fault) :
    fault = .counterOverflow ∧ cursor.Overflows := by
  obtain ⟨kind, full⟩ := passes.overflows_of_error failed
  exact ⟨kind, ahead, ahead_eq, Place.overflows_of_prefix leads full⟩

/-- Where the cursor is no offset, nothing is ahead of it, and else there is something. -/
theorem offset_cases (cursor : Cursor) :
    (¬ Text.IsOffset cursor.place.position cursor.source ∧ cursor.rest = none) ∨
      (Text.IsOffset cursor.place.position cursor.source ∧ ∃ ahead, cursor.rest = some ahead) := by
  cases rest : cursor.rest with
  | none => exact .inl ⟨rest_eq_none_iff.mp rest, rfl⟩
  | some ahead =>
    refine .inr ⟨?_, ahead, rfl⟩
    by_contra outside
    rw [rest_eq_none_iff.mpr outside] at rest
    cases rest

theorem passOne_failsWhere (cursor : Cursor) :
    FailsWhere cursor cursor.passOne (¬ Text.IsOffset cursor.place.position cursor.source)
      cursor.Overflows := by
  constructor
  case cuts =>
    intro outside
    exact passOne_of_none (rest_eq_none_iff.mpr outside)
  case counts =>
    intro inside fault failed
    obtain ⟨outside, _⟩ | ⟨_, ahead, found⟩ := cursor.offset_cases
    · exact absurd outside inside
    · exact (passOne_passes found).fault found (List.take_prefix 1 ahead) failed

theorem passMany_failsWhere (cursor : Cursor) (n : Nat) :
    FailsWhere cursor (cursor.passMany n)
      (0 < n ∧ cursor.place.position < Text.byteLength cursor.source ∧
        ¬ Text.IsOffset cursor.place.position cursor.source) cursor.Overflows := by
  constructor
  case cuts =>
    rintro ⟨several, before, outside⟩
    have goes : ¬ (n = 0 ∨ cursor.isAtEnd = true) := by
      rw [isAtEnd_iff]
      omega
    rw [passMany_of_none (rest_eq_none_iff.mpr outside), if_neg goes]
  case counts =>
    intro good fault failed
    obtain ⟨outside, unseen⟩ | ⟨_, ahead, found⟩ := cursor.offset_cases
    · have stays : n = 0 ∨ cursor.isAtEnd = true := by
        rw [isAtEnd_iff]
        by_contra goes
        exact good ⟨by omega, by omega, outside⟩
      rw [passMany_of_none unseen, if_pos stays] at failed
      cases failed
    · exact (passMany_passes found n).fault found (List.take_prefix n ahead) failed

theorem passWhile_failsWhere {σ : Type} (cursor : Cursor) (accepts : Char → σ → Bool × σ)
    (memory : σ) :
    FailsWhere cursor (cursor.passWhile accepts cursor.turns memory)
      (cursor.place.position < Text.byteLength cursor.source ∧
        ¬ Text.IsOffset cursor.place.position cursor.source) cursor.Overflows := by
  constructor
  case cuts =>
    rintro ⟨before, outside⟩
    have goes : ¬ cursor.isAtEnd = true := by
      rw [isAtEnd_iff]
      omega
    rw [passWhile_of_none accepts (rest_eq_none_iff.mpr outside), if_neg goes]
  case counts =>
    intro good fault failed
    obtain ⟨outside, unseen⟩ | ⟨_, ahead, found⟩ := cursor.offset_cases
    · have stays : cursor.isAtEnd = true := by
        rw [isAtEnd_iff]
        by_contra goes
        exact good ⟨by omega, outside⟩
      rw [passWhile_of_none accepts unseen, if_pos stays] at failed
      cases failed
    · have passes := passWhile_passes accepts memory found (length_lt_turns found)
      exact passes.fault found (heeded_leads accepts memory ahead) failed

end Cursor

namespace Session

variable {session : Session} {bad : Prop}

theorem moves_failsWhere {α : Type} {attempt : Attempt Cursor α} (encode : α → Answer)
    (fails : FailsWhere session.cursor attempt bad session.cursor.Overflows) :
    FailsWhere session (session.moves encode attempt) bad session.cursor.Overflows := by
  constructor
  case cuts =>
    intro outside
    rw [fails.cuts outside]
    rfl
  case counts => exact fun good fault failed => fails.counts good fault (exists_error_of_map failed)

/-- What looks only, fails by a cut or not at all. -/
theorem shows_failsWhere {α : Type} {found : Except Fault α} (encode : α → Answer)
    (cuts : bad → found = .error .outsideText) (shown : ¬ bad → ∃ value, found = .ok value) :
    FailsWhere session (session.shows encode found) bad session.cursor.Overflows := by
  constructor
  case cuts =>
    intro outside
    rw [cuts outside]
    rfl
  case counts =>
    intro good fault failed
    obtain ⟨value, rfl⟩ := shown good
    cases failed

/-- What is a matter of the text ahead fails where there is none. -/
theorem shows_remaining_failsWhere {α : Type} {found : Except Fault α} (encode : α → Answer)
    {look : List Char → α} (looks : found = session.cursor.remaining.map look) :
    FailsWhere session (session.shows encode found)
      (¬ Text.IsOffset session.cursor.place.position session.cursor.source)
      session.cursor.Overflows := by
  apply shows_failsWhere
  · intro outside
    rw [looks, Cursor.remaining_of_none (Cursor.rest_eq_none_iff.mpr outside)]
    rfl
  · intro inside
    obtain ⟨outside, _⟩ | ⟨_, ahead, rest⟩ := session.cursor.offset_cases
    · exact absurd outside inside
    · rw [looks, Cursor.remaining_of_rest rest]
      exact ⟨look ahead, rfl⟩

theorem perform_failsWhere (session : Session) (operation : Operation) :
    FailsWhere session (session.perform operation)
      (operation.cutsOutside session.cursor.source session.cursor.place.position)
      session.cursor.Overflows := by
  have never {attempt : Attempt Session Answer} {answer : Answer}
      (done : attempt.answer = .ok answer) :
      FailsWhere session attempt False session.cursor.Overflows := by
    refine ⟨False.elim, ?_⟩
    intro _ fault failed
    cases done.symm.trans failed
  cases operation with
  | peek n => exact shows_remaining_failsWhere _ (Cursor.look_eq_peek session.cursor n)
  | take n => exact shows_remaining_failsWhere _ (Cursor.cutAhead_eq_take session.cursor n)
  | startsWith lead => exact shows_remaining_failsWhere _ rfl
  | remaining =>
    have itself : session.cursor.remaining = session.cursor.remaining.map id := by
      cases session.cursor.remaining <;> rfl
    exact shows_remaining_failsWhere _ itself
  | textSince start =>
    apply shows_failsWhere
    · intro outside
      unfold Cursor.textSince
      rw [Text.slice_eq_none_iff.mpr outside]
    · intro inside
      rw [Operation.cutsOutside, ← Text.slice_eq_none_iff] at inside
      obtain ⟨cut, found⟩ := Option.ne_none_iff_exists'.mp inside
      refine ⟨cut, ?_⟩
      unfold Cursor.textSince
      rw [found]
  | next => exact moves_failsWhere _ session.cursor.passOne_failsWhere
  | nextn n => exact moves_failsWhere _ (session.cursor.passMany_failsWhere n)
  | skipWhile accepts memory =>
    exact moves_failsWhere _ (session.cursor.passWhile_failsWhere accepts memory)
  | save => exact never rfl
  | goBack index =>
    rw [perform]
    split <;> exact never rfl
  | restore place => exact never rfl

end Session

/-- Whether an operation fails, and what is left behind. -/
structure FailsCleanly (source : List Char) (session : Session) (operation : Operation) : Prop where
  cuts : (session.perform operation).answer = .error .outsideText ↔
    operation.cutsOutside source session.cursor.place.position
  stays : (session.perform operation).answer = .error .outsideText →
    (session.perform operation).after = session
  counts : ∀ fault, (session.perform operation).answer = .error fault →
    fault = .outsideText ∨ fault = .counterOverflow ∧ session.cursor.Overflows

/-- Whatever was done before, an operation that would cut outside the source leaves everything as it
was, and no other one fails, unless there is no room to count the characters ahead. -/
theorem operations_failCleanly (source : List Char) (operations : List Operation)
    (operation : Operation) : FailsCleanly source ((start source).after operations) operation := by
  have same : ((start source).after operations).cursor.source = source :=
    after_source (start source) operations
  have fails := ((start source).after operations).perform_failsWhere operation
  rw [same] at fails
  have cuts : (((start source).after operations).perform operation).answer = .error .outsideText →
      operation.cutsOutside source ((start source).after operations).cursor.place.position := by
    intro failed
    by_contra good
    have kind := (fails.counts good _ failed).1
    cases kind
  constructor
  case cuts =>
    refine ⟨cuts, ?_⟩
    intro outside
    rw [fails.cuts outside]
  case stays =>
    intro failed
    rw [fails.cuts (cuts failed)]
  case counts =>
    intro fault failed
    by_cases outside :
        operation.cutsOutside source ((start source).after operations).cursor.place.position
    · rw [fails.cuts outside] at failed
      exact .inl (Except.error.inj failed).symm
    · exact .inr (fails.counts outside fault failed)

/-- Inside a character of two bytes nothing can be passed; past the end nothing is to be passed. -/
example :
    (((start "é".toList).after [.restore ⟨1, 1, 1⟩]).perform (.nextn 1)).answer =
      .error .outsideText ∧
    (((start "é".toList).after [.restore ⟨3, 1, 1⟩]).perform (.nextn 1)).answer = .ok .done ∧
    (((start "é".toList).after [.restore ⟨3, 1, 1⟩]).perform .next).answer =
      .error .outsideText := by
  decide +kernel

end ScriptLexer
