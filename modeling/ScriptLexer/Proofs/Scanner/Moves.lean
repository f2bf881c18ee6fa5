import ScriptLexer.Cursor.Moves
import ScriptLexer.Proofs.Counters

/-!
# Moving one character at a time

Looking into the bytes of a text shows its characters, and cutting it at a byte leaves them whole.
On a cursor whose characters ahead are known, and for which there is room in the counters, each move
does what it is named for.
-/
namespace ScriptLexer

/-! ## Loops -/

section Turns

variable {σ ρ : Type} {turn : σ → Except Fault (Turn σ ρ)} {state next : σ} {result : ρ}
  {size budget : Nat}

theorem takeTurns_done (last : Yields size (turn state) (.done result)) (room : 0 < budget) :
    Yields size (takeTurns turn budget state) result := by
  obtain ⟨others, rfl⟩ := Nat.exists_eq_succ_of_ne_zero (Nat.ne_of_gt room)
  exact last.bind (.ok size result)

/-- With more turns left than there are characters ahead, a turn that passes some of them leaves
more than are ahead then. -/
theorem takeTurns_more {unit ahead : List Char} (nonempty : unit ≠ [])
    (enough : (unit ++ ahead).length < budget) (first : Yields size (turn state) (.more next))
    (others : ∀ fewer, ahead.length < fewer → Yields size (takeTurns turn fewer next) result) :
    Yields size (takeTurns turn budget state) result := by
  have passes := List.length_pos_iff.mpr nonempty
  rw [List.length_append] at enough
  obtain ⟨fewer, rfl⟩ : ∃ fewer, budget = fewer + 1 := ⟨budget - 1, by omega⟩
  exact first.bind (others fewer (by omega))

end Turns

theorem ok_bind {α β : Type} (value : α) (next : α → Except Fault β) :
    (Except.ok value >>= next) = next value := rfl

/-! ## Bytes -/

namespace Text

/-- Only ASCII characters begin with an ASCII byte, and they are that byte. -/
theorem utf8EncodeChar_of_head {c : Char} {byte : UInt8} {others : List UInt8}
    (encoded : String.utf8EncodeChar c = byte :: others) (ascii : byte < 128) :
    others = [] ∧ Char.ofUInt8 byte = c := by
  rw [UInt8.lt_iff_toNat_lt] at ascii
  have limit : (128 : UInt8).toNat = 128 := rfl
  unfold String.utf8EncodeChar at encoded
  dsimp only at encoded
  split at encoded
  case isTrue small =>
    obtain ⟨rfl, rfl⟩ := List.cons.inj encoded
    refine ⟨rfl, Char.ext (UInt32.toNat_inj.mp ?_)⟩
    show (UInt8.ofNat c.val.toNat).toUInt32.toNat = c.val.toNat
    rw [UInt8.toNat_toUInt32, UInt8.toNat_ofNat']
    omega
  case isFalse =>
    -- The first byte of a longer character is at least 192.
    split at encoded
    · obtain ⟨rfl, _⟩ := List.cons.inj encoded
      rw [UInt8.toNat_ofNat'] at ascii
      omega
    · split at encoded
      · obtain ⟨rfl, _⟩ := List.cons.inj encoded
        rw [UInt8.toNat_ofNat'] at ascii
        omega
      · obtain ⟨rfl, _⟩ := List.cons.inj encoded
        rw [UInt8.toNat_ofNat'] at ascii
        omega

/-- As far as a text is ASCII, its bytes are its characters. -/
theorem getElem?_bytes_of_ascii {text : List Char} {n : Nat} (inside : n < (bytes text).length)
    (ascii : ∀ byte ∈ (bytes text).take (n + 1), byte < 128) :
    ∃ byte, (bytes text)[n]? = some byte ∧ text[n]? = some (Char.ofUInt8 byte) := by
  induction text generalizing n with
  | nil => cases inside
  | cons c rest ih =>
    obtain ⟨byte, others, encoded⟩ : ∃ byte others, String.utf8EncodeChar c = byte :: others := by
      refine List.exists_cons_of_length_pos ?_
      rw [String.length_utf8EncodeChar]
      exact c.utf8Size_pos
    have whole : bytes (c :: rest) = byte :: (others ++ bytes rest) := by
      rw [bytes, List.flatMap_cons, encoded]
      rfl
    rw [whole] at inside ascii ⊢
    obtain ⟨rfl, rfl⟩ := utf8EncodeChar_of_head encoded (ascii byte (by simp))
    cases n with
    | zero => exact ⟨byte, rfl, rfl⟩
    | succ n =>
      refine ih (by simpa using inside) ?_
      intro other member
      exact ascii other (by simp [member])

/-! ## Cuts -/

theorem cutBefore_append (front back : List Char) :
    cutBefore (byteLength front) (front ++ back) = .ok front := by
  rw [cutBefore, takeBytes_append]

theorem cutBefore_offsetOf (n : Nat) (text : List Char) :
    cutBefore (offsetOf n text) text = .ok (text.take n) := by
  have cut := cutBefore_append (text.take n) (text.drop n)
  rwa [List.take_append_drop] at cut

end Text

namespace Cursor

/-! ## Moves -/

/-- Looking into the bytes shows what looking at the characters does. -/
theorem look_eq_peek (cursor : Cursor) (n : Nat) : cursor.look n = cursor.peek n := by
  unfold look peek
  cases cursor.remaining with
  | error fault => rfl
  | ok ahead =>
    simp only [bind, Except.bind, Except.map]
    split
    case isTrue fast =>
      rw [Bool.and_eq_true, decide_eq_true_iff, List.all_eq_true] at fast
      obtain ⟨inside, ascii⟩ := fast
      obtain ⟨byte, found, same⟩ := Text.getElem?_bytes_of_ascii inside fun byte member =>
        of_decide_eq_true (ascii byte member)
      rw [found, same]
      rfl
    case isFalse => rfl

/-- Cutting at a byte leaves what taking characters does. -/
theorem cutAhead_eq_take (cursor : Cursor) (n : Nat) : cursor.cutAhead n = cursor.take n := by
  unfold cutAhead take
  cases cursor.remaining with
  | error fault => rfl
  | ok ahead => exact Text.cutBefore_offsetOf n ahead

/-! ## Behind characters that lie ahead -/

/-- The cursor behind the characters `taken`. -/
def past (cursor : Cursor) (taken : List Char) : Cursor := cursor.restore (cursor.place.past taken)

variable {cursor : Cursor} {taken rest text : List Char} {size : Nat}

@[simp] theorem past_source (cursor : Cursor) (taken : List Char) :
    (cursor.past taken).source = cursor.source := rfl

@[simp] theorem past_place (cursor : Cursor) (taken : List Char) :
    (cursor.past taken).place = cursor.place.past taken := rfl

@[simp] theorem past_nil (cursor : Cursor) : cursor.past [] = cursor := eq_of_place rfl rfl

@[simp] theorem past_past (cursor : Cursor) (a b : List Char) :
    (cursor.past a).past b = cursor.past (a ++ b) :=
  eq_of_place rfl (Place.past_append cursor.place a b).symm

theorem next_of_none (outside : cursor.rest = none) : cursor.next = .error .outsideText := by
  obtain ⟨source, place, _, rest_eq⟩ := cursor
  obtain rfl := outside
  rfl

theorem next_of_end (ended : cursor.rest = some []) : cursor.next = .ok (endMark, cursor) := by
  obtain ⟨source, place, _, rest_eq⟩ := cursor
  obtain rfl := ended
  rfl

theorem next_of_cons {c : Char} (ahead : cursor.rest = some (c :: rest)) :
    cursor.next =
      if cursor.place.overflows [c] then .error .counterOverflow else .ok (c, cursor.past [c]) := by
  have forward : cursor.next = (cursor.forward [c] rest ahead).map fun after => (c, after) := by
    obtain ⟨source, place, _, rest_eq⟩ := cursor
    cases ahead
    rfl
  have passed := @forward_eq cursor [c] rest ahead
  rw [forward, passed]
  split <;> rfl

theorem rest_past_one {c : Char} (ahead : cursor.rest = some (c :: rest)) :
    (cursor.past [c]).rest = some rest :=
  (@restore_passes cursor [c] rest ahead).rest

theorem length_lt_turns (ahead : cursor.rest = some text) : text.length < cursor.turns := by
  obtain ⟨front, split, _⟩ := Text.exists_of_dropBytes (cursor.rest_eq.symm.trans ahead)
  rw [turns, split, List.length_append]
  omega

/-- The cursor has `text` ahead, and the size leaves room to count it. -/
structure Faces (cursor : Cursor) (size : Nat) (text : List Char) : Prop where
  rest : cursor.rest = some text
  room : cursor.place.Room size text.length

namespace Faces

theorem past (faces : cursor.Faces size (taken ++ rest)) : (cursor.past taken).Faces size rest := by
  refine ⟨(restore_passes faces.rest).rest, ?_⟩
  have room := faces.room
  rw [List.length_append] at room
  exact room.past taken

theorem past_one {c : Char} (faces : cursor.Faces size (c :: rest)) :
    (cursor.past [c]).Faces size rest :=
  @past cursor [c] rest size faces

theorem length_lt_turns (faces : cursor.Faces size text) : text.length < cursor.turns :=
  Cursor.length_lt_turns faces.rest

theorem isAtEnd (faces : cursor.Faces size text) : cursor.isAtEnd = text.isEmpty :=
  isAtEnd_of_rest faces.rest

theorem remaining (faces : cursor.Faces size text) : cursor.remaining = .ok text :=
  remaining_of_rest faces.rest

theorem look (faces : cursor.Faces size text) (n : Nat) :
    cursor.look n = .ok (text[n]?.getD endMark) := by
  rw [look_eq_peek, peek, faces.remaining]
  rfl

theorem look_head {c : Char} (faces : cursor.Faces size (c :: rest)) : cursor.look 0 = .ok c :=
  faces.look 0

theorem look_end (faces : cursor.Faces size []) : cursor.look 0 = .ok endMark :=
  faces.look 0

/-- What is true of the character that the text goes on with, and of the end mark, is true of what
is seen. -/
theorem look_satisfies {holds : Char → Prop} (faces : cursor.Faces size text) (mark : holds endMark)
    (head : ∀ c ∈ text.head?, holds c) : ∃ c, cursor.look 0 = .ok c ∧ holds c := by
  cases text with
  | nil => exact ⟨endMark, faces.look_end, mark⟩
  | cons c others => exact ⟨c, faces.look_head, head c rfl⟩

theorem startsWith (faces : cursor.Faces size text) (lead : List Char) :
    cursor.startsWith lead = .ok (lead.isPrefixOf text) := by
  rw [Cursor.startsWith, faces.remaining]
  rfl

theorem next {c : Char} (faces : cursor.Faces size (c :: rest)) :
    Yields size cursor.next (c, cursor.past [c]) := by
  have room : cursor.place.Room size [c].length := faces.room.mono (by simp)
  rw [next_of_cons faces.rest]
  split
  case isTrue full => exact .inr ⟨rfl, room.overflows full⟩
  case isFalse => exact .ok size _

theorem advance {c : Char} (faces : cursor.Faces size (c :: rest)) :
    Yields size cursor.advance (cursor.past [c]) :=
  faces.next.map Prod.snd

/-- At the end there is nothing to pass. -/
theorem advance_end (faces : cursor.Faces size []) : cursor.advance = .ok cursor := by
  rw [Cursor.advance, next_of_end faces.rest]
  rfl

theorem walk (faces : cursor.Faces size (taken ++ rest)) :
    Yields size (cursor.walk taken.length) (cursor.past taken) := by
  induction taken generalizing cursor with
  | nil =>
    rw [past_nil]
    exact .ok size cursor
  | cons c others ih =>
    have goes : ¬ cursor.isAtEnd = true := by
      rw [faces.isAtEnd]
      simp
    have behind : (cursor.past [c]).Faces size (others ++ rest) := faces.past_one
    have walked := ih behind
    rw [past_past] at walked
    rw [List.length_cons, Cursor.walk, if_neg goes]
    exact faces.advance.bind walked

/-- The loop passes the run that stands ahead. -/
theorem takeTurns_eat {accepts : Char → Bool} {budget : Nat}
    (faces : cursor.Faces size (taken ++ rest)) (all : ∀ c ∈ taken, accepts c = true)
    (stops : Stops accepts rest.head?) (enough : taken.length < budget) :
    Yields size (takeTurns (eatTurn accepts) budget cursor) (cursor.past taken) := by
  induction taken generalizing cursor budget with
  | nil =>
    refine takeTurns_done ?_ (by omega)
    rw [past_nil]
    unfold eatTurn
    rw [faces.isAtEnd, faces.look]
    cases rest with
    | nil => exact .ok size _
    | cons c others =>
      have refused : accepts c = false := Stops.some_iff.mp stops
      simp only [List.nil_append, List.isEmpty_cons, List.getElem?_cons_zero,
        Option.getD_some, bind, Except.bind, refused, Bool.false_eq_true, if_false]
      exact .ok size _
  | cons c others ih =>
    have behind : (cursor.past [c]).Faces size (others ++ rest) := faces.past_one
    refine @takeTurns_more _ _ _ _ (cursor.past [c]) _ _ _ [c] others (by simp) enough ?_ ?_
    · unfold eatTurn
      rw [faces.isAtEnd, faces.look]
      simp only [List.cons_append, List.isEmpty_cons, List.getElem?_cons_zero, Option.getD_some,
        bind, Except.bind, all c List.mem_cons_self, Bool.false_eq_true, if_false, if_true]
      exact faces.advance.bind (.ok size _)
    · intro fewer enough
      have eaten := ih behind (fun d member => all d (List.mem_cons_of_mem c member)) enough
      rwa [past_past] at eaten

theorem eatWhile {accepts : Char → Bool} (faces : cursor.Faces size (taken ++ rest))
    (all : ∀ c ∈ taken, accepts c = true) (stops : Stops accepts rest.head?) :
    Yields size (cursor.eatWhile accepts) (cursor.past taken) := by
  have enough := faces.length_lt_turns
  rw [List.length_append] at enough
  exact faces.takeTurns_eat all stops (by omega)

/-- The text since a place is what was passed. -/
theorem textSince (faces : cursor.Faces size (taken ++ rest)) :
    (cursor.past taken).textSince cursor.place.position = .ok taken := by
  rw [← textUpTo_eq_textSince cursor (cursor.past taken) rfl]
  exact (restore_passes faces.rest).textUpTo faces.rest

end Faces

end Cursor

end ScriptLexer
