import Mathlib.Data.Nat.Find
import ScriptLexer.Proofs.Text.Cut

/-!
# The longest part of a language

A text is cut behind the longest of its leading parts that are of a language. What a longer part
begins with is the part itself, so it is enough to look at the ways in which the part could go on.
-/
namespace ScriptLexer

/-- Of the leading parts of the text `part ++ rest` that are of the language, `part` is the
longest. -/
structure Longest (language : List Char → Prop) (part rest : List Char) : Prop where
  member : language part
  longest : ∀ other, other <+: part ++ rest → language other → other.length ≤ part.length

namespace Longest

variable {language : List Char → Prop} {part rest : List Char}

/-- A part that does not go on is the longest. -/
theorem of_not_longer (member : language part)
    (ends : ∀ c more, c :: more <+: rest → ¬ language (part ++ c :: more)) :
    Longest language part rest := by
  refine ⟨member, ?_⟩
  intro other leads otherMember
  by_contra longer
  obtain ⟨more, rfl⟩ :=
    List.prefix_of_prefix_length_le (List.prefix_append part rest) leads (by omega)
  cases more with
  | nil => simp at longer
  | cons c more => exact ends c more ((List.prefix_append_right_inj _).mp leads) otherMember

/-- The longest part does not go on. -/
theorem not_longer (longest : Longest language part rest) {c : Char} {more : List Char}
    (leads : c :: more <+: rest) : ¬ language (part ++ c :: more) := by
  intro longer
  have short := longest.longest _ ((List.prefix_append_right_inj part).mpr leads) longer
  rw [List.length_append, List.length_cons] at short
  omega

/-- The longest run of a class of characters is a run that stops. -/
theorem run_iff {accepts : Char → Bool} {run : List Char} :
    Longest (fun text => ∀ c ∈ text, accepts c = true) run rest ↔
      (∀ c ∈ run, accepts c = true) ∧ Stops accepts rest.head? := by
  constructor
  · intro longest
    refine ⟨longest.member, ?_⟩
    intro c next
    obtain ⟨others, rfl⟩ := List.head?_eq_some_iff.mp next
    by_contra accepted
    refine longest.not_longer (List.cons_prefix_cons.mpr ⟨rfl, List.nil_prefix⟩) ?_
    intro d among
    rcases List.mem_append.mp among with inRun | here
    · exact longest.member d inRun
    · rw [List.mem_singleton.mp here]
      simpa using accepted
  · rintro ⟨all, stops⟩
    refine of_not_longer all ?_
    rintro c more ⟨behind, rfl⟩ longer
    have accepted := longer c (by simp)
    rw [stops c rfl] at accepted
    cases accepted

end Longest

/-- Of a language that has the empty text, every text begins with a longest part, possibly empty. -/
theorem exists_longest {language : List Char → Prop} (empty : language []) (text : List Char) :
    ∃ part rest, text = part ++ rest ∧ Longest language part rest := by
  classical
  let size := Nat.findGreatest (fun size => language (text.take size)) text.length
  have found : language (text.take size) :=
    Nat.findGreatest_spec (P := fun size => language (text.take size)) (Nat.zero_le _)
      (by simpa using empty)
  refine ⟨text.take size, text.drop size, (List.take_append_drop _ _).symm, found, ?_⟩
  intro other leads member
  rw [List.take_append_drop] at leads
  rw [List.prefix_iff_eq_take.mp leads] at member
  rw [List.length_take]
  exact Nat.le_min.mpr ⟨Nat.le_findGreatest leads.length_le member, leads.length_le⟩

end ScriptLexer
