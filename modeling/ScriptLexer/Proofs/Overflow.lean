import ScriptLexer.Cursor

/-!
# Counter overflow

The only way for a run to stop short is a counter without room, and a counter fills up by at most
one for each character. So a result is stated together with the size of the text that could spoil
it.
-/
namespace ScriptLexer

/-- The result is `value`, unless a counter overflows, which takes a size of at least its limit. -/
def Yields {α : Type} (size : Nat) (result : Except Fault α) (value : α) : Prop :=
  result = .ok value ∨ result = .error .counterOverflow ∧ counterLimit ≤ size

namespace Yields

variable {α β : Type} {size : Nat} {result : Except Fault α} {value : α}

theorem ok (size : Nat) (value : α) : Yields size (.ok value) value := .inl rfl

theorem eq_ok (yields : Yields size result value) (short : size < counterLimit) :
    result = .ok value := by
  rcases yields with done | ⟨_, long⟩
  · exact done
  · omega

/-- A result that is there is the value. -/
theorem eq_of_ok {other : α} (yields : Yields size result value) (done : result = .ok other) :
    other = value := by
  rcases yields with same | ⟨failed, _⟩
  · exact Except.ok.inj (done.symm.trans same)
  · rw [failed] at done
    cases done

theorem mono {more : Nat} (yields : Yields size result value) (le : size ≤ more) :
    Yields more result value := by
  rcases yields with done | ⟨failed, long⟩
  · exact .inl done
  · exact .inr ⟨failed, by omega⟩

theorem bind {next : α → Except Fault β} {final : β} (first : Yields size result value)
    (second : Yields size (next value) final) : Yields size (result >>= next) final := by
  rcases first with rfl | ⟨rfl, long⟩
  · exact second
  · exact .inr ⟨rfl, long⟩

theorem map (yields : Yields size result value) (f : α → β) :
    Yields size (result.map f) (f value) := by
  rcases yields with rfl | ⟨rfl, long⟩
  · exact .inl rfl
  · exact .inr ⟨rfl, long⟩

end Yields

namespace Place

/-- Line and column leave room for as many characters as fit below the size. -/
structure Room (place : Place) (size ahead : Nat) : Prop where
  line : place.line + ahead ≤ size
  column : place.column + ahead ≤ size
  one_le : 1 ≤ place.column

namespace Room

variable {place : Place} {size ahead : Nat}

theorem mono {fewer : Nat} (room : place.Room size ahead) (le : fewer ≤ ahead) :
    place.Room size fewer := by
  obtain ⟨line, column, one_le⟩ := room
  exact ⟨by omega, by omega, one_le⟩

theorem le_size (room : place.Room size ahead) : ahead ≤ size := by
  have line := room.line
  omega

theorem after (c : Char) (room : place.Room size (ahead + 1)) :
    (place.after c).Room size ahead := by
  obtain ⟨line, column, one_le⟩ := room
  unfold Place.after
  split
  · exact ⟨by simp only; omega, by simp only; omega, Nat.le_refl 1⟩
  · exact ⟨by simp only; omega, by simp only; omega, by simp only; omega⟩

theorem past (text : List Char) (room : place.Room size (text.length + ahead)) :
    (place.past text).Room size ahead := by
  induction text generalizing place with
  | nil => simpa using room
  | cons c rest ih =>
    rw [Place.past_cons]
    have split : (c :: rest).length + ahead = rest.length + ahead + 1 := by simp; omega
    exact ih ((split ▸ room).after c)

/-- A text that has room overflows no counter, unless the size reaches the limit itself. -/
theorem overflows {text : List Char} (room : place.Room size text.length)
    (full : place.overflows text = true) : counterLimit ≤ size := by
  induction text generalizing place with
  | nil => simp [Place.overflows] at full
  | cons c rest ih =>
    have next := room.after c
    rw [Place.overflows, Bool.or_eq_true] at full
    rcases full with out | later
    · have line := next.line
      have column := next.column
      simp only [Place.outOfRange, Bool.or_eq_true, decide_eq_true_eq] at out
      omega
    · exact ih next later

end Room

end Place

end ScriptLexer
