import ScriptLexer.Text.Property.Basic

/-!
# White space

Characters that only keep others apart: blanks of all widths, tabs, and what ends a line, a page or
a paragraph.
-/
namespace ScriptLexer.Text.Property

/-- The property White_Space. -/
def whiteSpace : Property := [
  (0x9, 0xd), (0x20, 0x20), (0x85, 0x85), (0xa0, 0xa0), (0x1680, 0x1680), (0x2000, 0x200a),
  (0x2028, 0x2029), (0x202f, 0x202f), (0x205f, 0x205f), (0x3000, 0x3000)]

/-- No letter is white space. -/
theorem whiteSpace_holds_of_isAlpha {c : Char} (letter : c.isAlpha = true) :
    whiteSpace.holds c = false := by
  have bounds : c.isAlpha = (decide (c.val ≥ 65 ∧ c.val ≤ 90) ||
      (decide (c.val ≥ 97) && decide (c.val ≤ 122))) := rfl
  have range : (65 ≤ c.toNat ∧ c.toNat ≤ 90) ∨ (97 ≤ c.toNat ∧ c.toNat ≤ 122) := by
    simpa [bounds, UInt32.le_iff_toNat_le] using letter
  have apart : ∀ block ∈ whiteSpace, block.2 < 65 ∨ 122 < block.1 := by decide
  rw [holds, List.any_eq_false]
  intro block listed
  have beside := apart block listed
  rw [Bool.and_eq_true, decide_eq_true_iff, decide_eq_true_iff]
  omega

end ScriptLexer.Text.Property
