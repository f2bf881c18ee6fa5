import ScriptLexer.Cursor.Attempt
import ScriptLexer.Proofs.Scanner.Moves
import ScriptLexer.Proofs.Text.Boundary

/-!
# What moves in place pass

A move in place passes the characters that lie ahead one at a time, unless a counter overflows on
the way. But for where a fault leaves the cursor, the moves in place are those that pass a whole run
at once.
-/
namespace ScriptLexer

namespace Attempt

variable {σ α β : Type}

/-- What holds of what the first attempt leaves behind, and is kept from there on, holds in the
end. -/
theorem andThen_keeps {holds : σ → Prop} {first : Attempt σ α} {next : α → σ → Attempt σ β}
    (begun : holds first.after)
    (goesOn : ∀ value, holds first.after → holds (next value first.after).after) :
    holds (first.andThen next).after := by
  unfold andThen
  split
  case h_1 value _ => exact goesOn value begun
  case h_2 => exact begun

end Attempt

namespace Cursor

/-- The leading characters that are accepted when asked for one after the other, and what is
remembered behind the last answer. -/
def heeded {σ : Type} (accepts : Char → σ → Bool × σ) : σ → List Char → List Char × σ
  | memory, [] => ([], memory)
  | memory, c :: rest =>
    let (accepted, memory) := accepts c memory
    if accepted then (c :: (heeded accepts memory rest).1, (heeded accepts memory rest).2)
    else ([], memory)

/-! ## What the moves keep -/

section Keeping

variable {holds : Cursor → Prop} (one : ∀ cursor, holds cursor → holds cursor.passOne.after)

include one in
/-- What passing one character keeps, whether it is passed or not, passing many keeps. -/
theorem passMany_keeps (n : Nat) {cursor : Cursor} (held : holds cursor) :
    holds (cursor.passMany n).after := by
  induction n generalizing cursor with
  | zero => exact held
  | succ n ih =>
    rw [passMany]
    split
    case isTrue => exact held
    case isFalse => exact Attempt.andThen_keeps (one cursor held) fun _ => ih

include one in
theorem passWhile_keeps {σ : Type} (accepts : Char → σ → Bool × σ) (budget : Nat) (memory : σ)
    {cursor : Cursor} (held : holds cursor) :
    holds (cursor.passWhile accepts budget memory).after := by
  induction budget generalizing cursor memory with
  | zero => exact held
  | succ budget ih =>
    rw [passWhile]
    split
    case isTrue => exact held
    case isFalse =>
      split
      case h_1 => exact held
      case h_2 c seen =>
        rcases accepts c memory with ⟨_ | _, memory⟩
        · exact held
        · exact Attempt.andThen_keeps (one cursor held) fun _ => ih memory

end Keeping

variable {cursor : Cursor} {text rest : List Char}

/-- The text since an offset is what stands between it and the cursor. -/
theorem textSince_eq_ok_iff {start : Nat} {between : List Char} :
    cursor.textSince start = .ok between ↔
      ∃ front back, cursor.source = front ++ (between ++ back) ∧ Text.byteLength front = start ∧
        start + Text.byteLength between = cursor.place.position := by
  rw [← Text.slice_eq_some_iff]
  unfold textSince
  cases Text.slice start cursor.place.position cursor.source <;> simp

/-! ## One character -/

theorem rest_eq_none_iff :
    cursor.rest = none ↔ ¬ Text.IsOffset cursor.place.position cursor.source := by
  rw [cursor.rest_eq, Text.dropBytes_eq_none_iff]

/-- The end is reached as soon as no byte lies ahead, and behind the last byte as well. -/
theorem isAtEnd_iff :
    cursor.isAtEnd = true ↔ Text.byteLength cursor.source ≤ cursor.place.position := by
  cases ahead : cursor.rest with
  | none =>
    unfold isAtEnd
    rw [ahead, decide_eq_true_iff]
  | some rest =>
    obtain ⟨front, split, size⟩ := Text.exists_of_dropBytes (cursor.rest_eq.symm.trans ahead)
    rw [isAtEnd_of_rest ahead, List.isEmpty_iff, split, Text.byteLength_append, size]
    constructor
    · rintro rfl
      exact Nat.le_refl _
    · intro past
      by_contra more
      have positive := Text.byteLength_pos more
      omega

theorem remaining_of_none (outside : cursor.rest = none) :
    cursor.remaining = .error .outsideText := by
  unfold remaining
  rw [outside]

theorem passOne_of_none (outside : cursor.rest = none) :
    cursor.passOne = { answer := .error .outsideText, after := cursor } := by
  unfold passOne
  rw [remaining_of_none outside]

theorem passOne_of_end (ended : cursor.rest = some []) :
    cursor.passOne = { answer := .ok endMark, after := cursor } := by
  unfold passOne
  rw [remaining_of_rest ended]

theorem passOne_of_cons {c : Char} (ahead : cursor.rest = some (c :: rest)) :
    cursor.passOne =
      if (cursor.place.after c).outOfRange then
        { answer := .error .counterOverflow
          after := cursor.restore
            { cursor.place with position := cursor.place.position + c.utf8Size } }
      else
        { answer := .ok c, after := cursor.past [c] } := by
  unfold passOne
  rw [remaining_of_rest ahead]
  rfl

/-! ## Characters that lie ahead -/

/-- The attempt passes the characters `taken` and answers `value`, unless a counter overflows on the
way. -/
structure PassesBy {α : Type} (cursor : Cursor) (attempt : Attempt Cursor α) (taken : List Char)
    (value : α) : Prop where
  counted : cursor.place.overflows taken = false →
    attempt = { answer := .ok value, after := cursor.past taken }
  full : cursor.place.overflows taken = true → attempt.answer = .error .counterOverflow

namespace PassesBy

variable {α : Type} {value : α} {taken : List Char}

theorem nil (cursor : Cursor) (value : α) :
    cursor.PassesBy { answer := .ok value, after := cursor } [] value := by
  constructor
  · intro _
    rw [past_nil]
  · intro full
    cases full

/-- Behind one character, the others are passed. -/
theorem cons {c : Char} {next : Cursor → Attempt Cursor α} (ahead : cursor.rest = some (c :: rest))
    (others : (cursor.past [c]).PassesBy (next (cursor.past [c])) taken value) :
    cursor.PassesBy (cursor.passOne.andThen fun _ after => next after) (c :: taken) value := by
  rw [passOne_of_cons ahead]
  constructor
  · intro room
    rw [Place.overflows, Bool.or_eq_false_iff] at room
    rw [if_neg (by simp [room.1]), Attempt.andThen_ok, others.counted room.2, past_past]
    rfl
  · intro full
    rw [Place.overflows, Bool.or_eq_true] at full
    split
    case isTrue => rfl
    case isFalse room => exact others.full (full.resolve_left room)

/-- Without the cursor that a fault leaves, the attempt is to pass the characters at once. -/
theorem settled_eq {attempt : Attempt Cursor α} (passes : cursor.PassesBy attempt taken value) :
    attempt.settled =
      if cursor.place.overflows taken then .error .counterOverflow
      else .ok (value, cursor.past taken) := by
  unfold Attempt.settled
  split
  case isTrue full =>
    rw [passes.full full]
    rfl
  case isFalse room =>
    rw [passes.counted (Bool.eq_false_iff.mpr room)]
    rfl

/-- Only a counter can keep the attempt from passing the characters. -/
theorem overflows_of_error {attempt : Attempt Cursor α}
    (passes : cursor.PassesBy attempt taken value) {fault : Fault}
    (failed : attempt.answer = .error fault) :
    fault = .counterOverflow ∧ cursor.place.overflows taken = true := by
  by_cases full : cursor.place.overflows taken = true
  · exact ⟨Except.error.inj (failed.symm.trans (passes.full full)), full⟩
  · rw [passes.counted (Bool.eq_false_iff.mpr full)] at failed
    cases failed

end PassesBy

theorem passOne_passes (ahead : cursor.rest = some text) :
    cursor.PassesBy cursor.passOne (text.take 1) (text.head?.getD endMark) := by
  cases text with
  | nil =>
    rw [passOne_of_end ahead]
    exact .nil cursor endMark
  | cons c rest =>
    rw [passOne_of_cons ahead]
    constructor
    · intro room
      rw [List.take_succ_cons, List.take_zero, Place.overflows, Bool.or_eq_false_iff] at room
      rw [if_neg (by simp [room.1])]
      rfl
    · intro full
      rw [List.take_succ_cons, List.take_zero, Place.overflows, Place.overflows,
        Bool.or_false] at full
      rw [if_pos full]

theorem passMany_passes (ahead : cursor.rest = some text) (n : Nat) :
    cursor.PassesBy (cursor.passMany n) (text.take n) () := by
  induction n generalizing cursor text with
  | zero => exact .nil cursor ()
  | succ n ih =>
    rw [passMany, isAtEnd_of_rest ahead]
    cases text with
    | nil => exact .nil cursor ()
    | cons c rest => exact .cons ahead (ih (rest_past_one ahead))

theorem passWhile_passes {σ : Type} (accepts : Char → σ → Bool × σ) {budget : Nat} (memory : σ)
    (ahead : cursor.rest = some text) (enough : text.length < budget) :
    cursor.PassesBy (cursor.passWhile accepts budget memory) (heeded accepts memory text).1
      (heeded accepts memory text).2 := by
  induction budget generalizing cursor text memory with
  | zero => omega
  | succ budget ih =>
    rw [passWhile, isAtEnd_of_rest ahead]
    cases text with
    | nil => exact .nil cursor memory
    | cons c rest =>
      have seen : cursor.look 0 = .ok c := by rw [look_eq_peek, peek_of_rest ahead]
      rw [heeded, if_neg (by simp), seen]
      dsimp only
      split
      case isTrue => exact .cons ahead (ih _ (rest_past_one ahead) (by simpa using enough))
      case isFalse => exact .nil cursor _

/-- What is accepted leads the text. -/
theorem heeded_leads {σ : Type} (accepts : Char → σ → Bool × σ) (memory : σ) (text : List Char) :
    (heeded accepts memory text).1 <+: text := by
  induction text generalizing memory with
  | nil => exact List.nil_prefix
  | cons c rest ih =>
    rw [heeded]
    rcases accepts c memory with ⟨_ | _, memory⟩
    · exact List.nil_prefix
    · exact List.cons_prefix_cons.mpr ⟨rfl, ih memory⟩

/-! ## Nothing lies ahead -/

theorem passMany_of_none (outside : cursor.rest = none) (n : Nat) :
    cursor.passMany n =
      if n = 0 ∨ cursor.isAtEnd = true then { answer := .ok (), after := cursor }
      else { answer := .error .outsideText, after := cursor } := by
  cases n with
  | zero => rfl
  | succ n =>
    rw [passMany, passOne_of_none outside]
    simp

theorem passWhile_of_none {σ : Type} (accepts : Char → σ → Bool × σ) (outside : cursor.rest = none)
    (memory : σ) :
    cursor.passWhile accepts cursor.turns memory =
      if cursor.isAtEnd = true then { answer := .ok memory, after := cursor }
      else { answer := .error .outsideText, after := cursor } := by
  have unseen : cursor.look 0 = .error .outsideText := by
    rw [look_eq_peek, peek, remaining_of_none outside]
    rfl
  rw [turns, passWhile, unseen]

/-! ## The moves that pass a run at once -/

/-- Where a fault may forget the cursor, passing a character in place is the move by one
character. -/
theorem settled_passOne (cursor : Cursor) : cursor.passOne.settled = cursor.next := by
  cases ahead : cursor.rest with
  | none =>
    rw [passOne_of_none ahead, next_of_none ahead]
    rfl
  | some text =>
    cases text with
    | nil =>
      rw [passOne_of_end ahead, next_of_end ahead]
      rfl
    | cons c rest =>
      rw [(passOne_passes ahead).settled_eq, next_of_cons ahead]
      rfl

/-- Passing characters one by one is passing them at once. -/
theorem settled_passMany (cursor : Cursor) (n : Nat) :
    (cursor.passMany n).settled.map Prod.snd = cursor.nextn n := by
  cases ahead : cursor.rest with
  | none =>
    rw [passMany_of_none ahead, nextn_of_none ahead]
    by_cases still : n = 0 ∨ cursor.isAtEnd = true
    · rw [if_pos still, if_pos (by simpa [or_comm] using still)]
      rfl
    · rw [if_neg still, if_neg (by simpa [or_comm] using still)]
      rfl
  | some text =>
    rw [(passMany_passes ahead n).settled_eq, nextn_eq ahead]
    split <;> rfl

/-- Whatever is remembered, what is passed are the leading characters that are accepted. -/
theorem heeded_fst {σ : Type} {question : Char → σ → Bool × σ} {accepts : Char → Bool}
    (answers : ∀ c memory, (question c memory).1 = accepts c) (memory : σ) (text : List Char) :
    (heeded question memory text).1 = text.takeWhile accepts := by
  induction text generalizing memory with
  | nil => rfl
  | cons c rest ih =>
    have same := answers c memory
    rcases asked : question c memory with ⟨accepted, next⟩
    rw [asked] at same
    rw [heeded, asked, List.takeWhile_cons, ← same]
    cases accepted with
    | false => rfl
    | true => exact congrArg (c :: ·) (ih next)

/-- Asking for characters one by one passes the same as skipping the run at once. -/
theorem settled_passWhile {σ : Type} {question : Char → σ → Bool × σ} {accepts : Char → Bool}
    (answers : ∀ c memory, (question c memory).1 = accepts c) (cursor : Cursor) (memory : σ) :
    (cursor.passWhile question cursor.turns memory).settled.map Prod.snd =
      cursor.skipWhile accepts := by
  cases ahead : cursor.rest with
  | none =>
    rw [passWhile_of_none question ahead, skipWhile_of_none ahead]
    split <;> rfl
  | some text =>
    have run : text.take (runLength accepts text) = text.takeWhile accepts :=
      (List.prefix_iff_eq_take.mp (List.takeWhile_prefix accepts)).symm
    rw [(passWhile_passes question memory ahead (length_lt_turns ahead)).settled_eq,
      heeded_fst answers, skipWhile_eq ahead, nextn_eq ahead, run]
    split <;> rfl

end Cursor

end ScriptLexer
