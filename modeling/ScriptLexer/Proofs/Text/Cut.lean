import Mathlib.Data.List.TakeWhile
import ScriptLexer.Lexeme.Basic

/-!
# Cutting a text

Two ways to cut a text: after the longest run of characters of one class, and at byte offsets. A run
is cut off whole exactly where the character behind it is not of the class, so what a run does
depends on one character of what follows and on no more.
-/
namespace ScriptLexer

/-- What holds of listed characters can be checked one by one. -/
theorem forall_mem_of_all {p : Char → Prop} [DecidablePred p] {listed : List Char}
    (all : listed.all (fun c => decide (p c)) = true) : ∀ c ∈ listed, p c := by
  intro c member
  exact of_decide_eq_true (List.all_eq_true.mp all c member)

/-- The next character, if there is one, is not of the class. -/
def Stops (accepts : Char → Bool) (next : Option Char) : Prop :=
  ∀ c ∈ next, accepts c = false

namespace Stops

variable {accepts : Char → Bool} {run rest : List Char}

@[simp] theorem none : Stops accepts none := by
  intro c absent
  cases absent

@[simp] theorem some_iff {c : Char} : Stops accepts (some c) ↔ accepts c = false := by
  simp [Stops]

theorem takeWhile_append (all : ∀ c ∈ run, accepts c = true) (stops : Stops accepts rest.head?) :
    (run ++ rest).takeWhile accepts = run := by
  rw [List.takeWhile_append_of_pos all]
  cases rest with
  | nil => simp
  | cons c rest => simp [some_iff.mp stops]

theorem dropWhile_append (all : ∀ c ∈ run, accepts c = true) (stops : Stops accepts rest.head?) :
    (run ++ rest).dropWhile accepts = rest := by
  rw [List.dropWhile_append_of_pos all]
  cases rest with
  | nil => rfl
  | cons c rest => simp [some_iff.mp stops]

theorem runLength_append (all : ∀ c ∈ run, accepts c = true) (stops : Stops accepts rest.head?) :
    runLength accepts (run ++ rest) = run.length := by
  rw [runLength, takeWhile_append all stops]

end Stops

/-- Every text begins with a run, possibly empty, that stops. -/
theorem exists_run (accepts : Char → Bool) (text : List Char) :
    ∃ run rest, text = run ++ rest ∧ (∀ c ∈ run, accepts c = true) ∧ Stops accepts rest.head? := by
  refine ⟨text.takeWhile accepts, text.dropWhile accepts, List.takeWhile_append_dropWhile.symm, ?_,
    ?_⟩
  · intro c member
    exact List.mem_takeWhile_imp member
  · intro c next
    have failed := List.head?_dropWhile_not accepts text
    rw [Option.mem_def.mp next] at failed
    simpa using failed

namespace Text

theorem byteLength_pos {text : List Char} (nonempty : text ≠ []) : 0 < byteLength text := by
  obtain ⟨c, rest, rfl⟩ := List.exists_cons_of_ne_nil nonempty
  have positive := c.utf8Size_pos
  rw [byteLength_cons]
  omega

private theorem takeBytesOnto_append (taken a b : List Char) :
    takeBytesOnto taken (byteLength a) (a ++ b) = some (taken.reverse ++ a) := by
  induction a generalizing taken with
  | nil => cases b <;> simp [takeBytesOnto]
  | cons c rest ih =>
    have positive := c.utf8Size_pos
    obtain ⟨n, size⟩ : ∃ n, byteLength (c :: rest) = n + 1 :=
      ⟨byteLength (c :: rest) - 1, by simp; omega⟩
    have left : n + 1 - c.utf8Size = byteLength rest := by
      rw [← size, byteLength_cons, Nat.add_sub_cancel_left]
    have fits : c.utf8Size ≤ n + 1 := by
      rw [← size, byteLength_cons]
      omega
    rw [size, List.cons_append, takeBytesOnto, if_pos fits, left, ih]
    simp

/-- The first bytes of a text, as many as a leading part has, are that part. -/
theorem takeBytes_append (a b : List Char) : takeBytes (byteLength a) (a ++ b) = some a :=
  takeBytesOnto_append [] a b

/-- The slice between two leading parts is what the longer one has more. -/
theorem slice_append (a b c : List Char) :
    slice (byteLength a) (byteLength a + byteLength b) (a ++ (b ++ c)) = some b := by
  have dropped : dropBytes (byteLength a) (a ++ (b ++ c)) = some (b ++ c) :=
    dropBytes_eq_some_iff.mpr ⟨a, rfl, rfl⟩
  rw [slice, if_pos (Nat.le_add_right _ _), dropped, Nat.add_sub_cancel_left]
  exact takeBytes_append b c

theorem isBoundary_append (a b : List Char) : isBoundary (byteLength a) (a ++ b) = true := by
  rw [isBoundary, dropBytes_eq_some_iff.mpr ⟨a, rfl, rfl⟩]
  rfl

end Text

end ScriptLexer
