import ScriptLexer.Proofs.Overflow
import ScriptLexer.Proofs.Text.Cut

/-!
# Walking with a cursor

A cursor whose characters ahead are known passes as many of them as asked for, and the text between
two of its stops is what it passed.
-/
namespace ScriptLexer.Cursor

/-- `stop` is where the cursor stands after the characters `taken`, with `rest` ahead. -/
structure Passes (start stop : Cursor) (taken rest : List Char) : Prop where
  source : stop.source = start.source
  place : stop.place = start.place.past taken
  rest : stop.rest = some rest

variable {cursor : Cursor} {taken rest : List Char} {size : Nat}

theorem forward_yields {front behind : List Char} (ahead : cursor.rest = some (front ++ behind))
    (front_eq : front = taken) (behind_eq : behind = rest)
    (room : cursor.place.Room size taken.length) :
    ∃ stop, Yields size (cursor.forward front behind ahead) stop ∧
      cursor.Passes stop taken rest := by
  subst front_eq behind_eq
  refine ⟨⟨cursor.source, cursor.place.past front, some behind, ?_⟩, ?_, ⟨rfl, rfl, rfl⟩⟩
  · rw [Place.position_past, Text.dropBytes_add (cursor.rest_eq.symm.trans ahead)]
  · unfold forward
    split
    case isTrue full => exact .inr ⟨rfl, room.overflows full⟩
    case isFalse => exact .ok size _

theorem isAtEnd_of_rest (ahead : cursor.rest = some rest) : cursor.isAtEnd = rest.isEmpty := by
  unfold isAtEnd
  rw [ahead]

theorem remaining_of_rest (ahead : cursor.rest = some rest) : cursor.remaining = .ok rest := by
  unfold remaining
  rw [ahead]

theorem peek_of_rest {c : Char} (ahead : cursor.rest = some (c :: rest)) :
    cursor.peek 0 = .ok c := by
  unfold peek
  rw [remaining_of_rest ahead]
  rfl

/-- Passing characters cuts them off what is ahead. -/
theorem nextn_of_rest {text : List Char} (ahead : cursor.rest = some text) (n : Nat) :
    cursor.nextn n =
      if cursor.isAtEnd || n == 0 then .ok cursor
      else cursor.forward (text.take n) (text.drop n) (by rw [ahead, List.take_append_drop]) := by
  obtain ⟨source, place, _, rest_eq⟩ := cursor
  cases ahead
  rfl

theorem skipWhile_of_rest {text : List Char} (ahead : cursor.rest = some text)
    (accepts : Char → Bool) :
    cursor.skipWhile accepts =
      if cursor.isAtEnd then .ok cursor
      else cursor.forward (text.takeWhile accepts) (text.dropWhile accepts)
        (by rw [ahead, List.takeWhile_append_dropWhile]) := by
  obtain ⟨source, place, _, rest_eq⟩ := cursor
  cases ahead
  rfl

theorem nextn_of_none (outside : cursor.rest = none) (n : Nat) :
    cursor.nextn n = if cursor.isAtEnd || n == 0 then .ok cursor else .error .outsideText := by
  obtain ⟨source, place, _, rest_eq⟩ := cursor
  obtain rfl := outside
  rfl

theorem skipWhile_of_none (outside : cursor.rest = none) (accepts : Char → Bool) :
    cursor.skipWhile accepts = if cursor.isAtEnd then .ok cursor else .error .outsideText := by
  obtain ⟨source, place, _, rest_eq⟩ := cursor
  obtain rfl := outside
  rfl

theorem nextn_yields (ahead : cursor.rest = some (taken ++ rest)) (nonempty : taken ≠ [])
    (room : cursor.place.Room size taken.length) :
    ∃ stop, Yields size (cursor.nextn taken.length) stop ∧ cursor.Passes stop taken rest := by
  have goes : ¬ (cursor.isAtEnd || taken.length == 0) = true := by
    rw [isAtEnd_of_rest ahead]
    simp [nonempty]
  rw [nextn_of_rest ahead, if_neg goes]
  exact forward_yields _ List.take_left List.drop_left room

theorem skipWhile_yields {accepts : Char → Bool} (ahead : cursor.rest = some (taken ++ rest))
    (all : ∀ c ∈ taken, accepts c = true) (stops : Stops accepts rest.head?)
    (room : cursor.place.Room size taken.length) :
    ∃ stop, Yields size (cursor.skipWhile accepts) stop ∧ cursor.Passes stop taken rest := by
  rw [skipWhile_of_rest ahead]
  split
  case isTrue atEnd =>
    rw [isAtEnd_of_rest ahead, List.isEmpty_iff, List.append_eq_nil_iff] at atEnd
    obtain ⟨rfl, rfl⟩ := atEnd
    exact ⟨cursor, .ok size cursor, rfl, rfl, ahead⟩
  case isFalse =>
    exact forward_yields _ (Stops.takeWhile_append all stops) (Stops.dropWhile_append all stops)
      room

/-- The text between two stops is what was passed. -/
theorem Passes.textUpTo {stop : Cursor} (passes : cursor.Passes stop taken rest)
    (ahead : cursor.rest = some (taken ++ rest)) : cursor.textUpTo stop = .ok taken := by
  have cut : Text.takeBytes (Text.byteLength taken) (taken ++ rest) = some taken :=
    Text.takeBytes_append taken rest
  unfold Cursor.textUpTo
  rw [passes.place, Place.position_past, if_pos (Nat.le_add_right _ _),
    Nat.add_sub_cancel_left, ahead, Option.bind_some, cut]

end ScriptLexer.Cursor
