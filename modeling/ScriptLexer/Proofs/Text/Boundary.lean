import ScriptLexer.Proofs.Text.Cut

/-!
# Offsets of a text

The number of bytes of a leading part is an offset of the text, and no other number is. What lies
between two numbers can be cut out exactly where both are offsets, in order; the ways in which the
text splits tell that without counting through it.
-/
namespace ScriptLexer.Text

/-- The number of bytes lies in the text, and not inside a character. -/
def IsOffset (n : Nat) (text : List Char) : Prop :=
  ∃ front back, text = front ++ back ∧ byteLength front = n

variable {n start stop : Nat} {text cut : List Char}

theorem IsOffset.le (offset : IsOffset n text) : n ≤ byteLength text := by
  obtain ⟨front, back, rfl, rfl⟩ := offset
  rw [byteLength_append]
  exact Nat.le_add_right _ _

theorem isBoundary_iff : isBoundary n text = true ↔ IsOffset n text := by
  rw [isBoundary, Option.isSome_iff_exists]
  constructor
  · rintro ⟨back, dropped⟩
    obtain ⟨front, split, size⟩ := exists_of_dropBytes dropped
    exact ⟨front, back, split, size⟩
  · rintro ⟨front, back, split, size⟩
    exact ⟨back, dropBytes_eq_some_iff.mpr ⟨front, split, size⟩⟩

theorem dropBytes_eq_none_iff : dropBytes n text = none ↔ ¬ IsOffset n text := by
  rw [← isBoundary_iff, isBoundary, Bool.not_eq_true, Option.isSome_eq_false_iff,
    Option.isNone_iff_eq_none]

/-- Of two leading parts of one text, the one with fewer bytes leads the other. -/
theorem exists_append_of_byteLength_le {a b c d : List Char} (same : a ++ b = c ++ d)
    (le : byteLength a ≤ byteLength c) : ∃ more, c = a ++ more ∧ b = more ++ d := by
  rcases List.append_eq_append_iff.mp same with found | ⟨more, shorter, behind⟩
  · exact found
  · have nothing : more = [] := by
      by_contra nonempty
      have positive := byteLength_pos nonempty
      rw [shorter, byteLength_append] at le
      omega
    subst nothing
    exact ⟨[], by simpa using shorter.symm, by simpa using behind.symm⟩

/-- Of two leading parts of one text, as many bytes are the same part. -/
theorem eq_of_byteLength_eq {a b c d : List Char} (same : a ++ b = c ++ d)
    (eq : byteLength a = byteLength c) : a = c := by
  obtain ⟨more, rfl, _⟩ := exists_append_of_byteLength_le same (Nat.le_of_eq eq)
  by_contra differs
  have positive : 0 < byteLength more := by
    refine byteLength_pos ?_
    rintro rfl
    exact differs (List.append_nil a).symm
  rw [byteLength_append] at eq
  omega

private theorem exists_of_takeBytesOnto {taken found : List Char}
    (h : takeBytesOnto taken n text = some found) :
    ∃ more back, found = taken.reverse ++ more ∧ text = more ++ back ∧ byteLength more = n := by
  induction text generalizing taken n with
  | nil =>
    cases n with
    | zero => exact ⟨[], [], by simpa using (Option.some.inj h).symm, rfl, rfl⟩
    | succ n => cases h
  | cons c rest ih =>
    cases n with
    | zero => exact ⟨[], c :: rest, by simpa using (Option.some.inj h).symm, rfl, rfl⟩
    | succ n =>
      rw [takeBytesOnto] at h
      split at h
      case isTrue fits =>
        obtain ⟨more, back, rfl, rfl, size⟩ := ih h
        refine ⟨c :: more, back, by simp, rfl, ?_⟩
        rw [byteLength_cons]
        omega
      case isFalse => cases h

/-- What is taken is a leading part of exactly that many bytes. -/
theorem takeBytes_eq_some_iff : takeBytes n text = some cut ↔
    ∃ back, text = cut ++ back ∧ byteLength cut = n := by
  constructor
  · intro h
    obtain ⟨more, back, rfl, split, size⟩ := exists_of_takeBytesOnto h
    exact ⟨back, split, size⟩
  · rintro ⟨back, rfl, rfl⟩
    exact takeBytes_append cut back

/-- A slice stands between the two offsets. -/
theorem slice_eq_some_iff : slice start stop text = some cut ↔
    ∃ front back, text = front ++ (cut ++ back) ∧ byteLength front = start ∧
      start + byteLength cut = stop := by
  constructor
  · intro h
    rw [slice] at h
    split at h
    case isTrue ordered =>
      obtain ⟨rest, dropped, taken⟩ := Option.bind_eq_some_iff.mp h
      obtain ⟨front, rfl, size⟩ := exists_of_dropBytes dropped
      obtain ⟨back, rfl, width⟩ := takeBytes_eq_some_iff.mp taken
      exact ⟨front, back, rfl, size, by omega⟩
    case isFalse => cases h
  · rintro ⟨front, back, rfl, rfl, rfl⟩
    exact slice_append front cut back

/-- There is a slice exactly between two offsets in order. -/
theorem exists_slice_iff : (∃ cut, slice start stop text = some cut) ↔
    start ≤ stop ∧ IsOffset start text ∧ IsOffset stop text := by
  constructor
  · rintro ⟨cut, found⟩
    obtain ⟨front, back, rfl, rfl, rfl⟩ := slice_eq_some_iff.mp found
    refine ⟨Nat.le_add_right _ _, ⟨front, cut ++ back, rfl, rfl⟩, front ++ cut, back, ?_,
      byteLength_append _ _⟩
    rw [List.append_assoc]
  · rintro ⟨ordered, ⟨front, behind, rfl, rfl⟩, longer, back, split, rfl⟩
    obtain ⟨cut, rfl, rfl⟩ := exists_append_of_byteLength_le split ordered
    exact ⟨cut, slice_eq_some_iff.mpr ⟨front, back, rfl, rfl, (byteLength_append _ _).symm⟩⟩

theorem slice_eq_none_iff : slice start stop text = none ↔
    stop < start ∨ ¬ IsOffset start text ∨ ¬ IsOffset stop text := by
  rw [Option.eq_none_iff_forall_ne_some, ← not_exists, exists_slice_iff,
    not_and_or, not_and_or, Nat.not_le]

end ScriptLexer.Text
