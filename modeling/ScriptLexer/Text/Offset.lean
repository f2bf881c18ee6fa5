/-!
# Byte offsets into a text

A text is a list of characters, and an offset into it counts the bytes of its UTF-8 form. Not every
number is an offset: one past the end, or one inside the bytes of a character, cuts nothing. So
`dropBytes` and `takeBytes` are partial, and a slice exists exactly when both of its ends are
offsets.
-/
namespace ScriptLexer.Text

/-- Number of bytes of the UTF-8 form. -/
def byteLength (text : List Char) : Nat :=
  text.foldl (fun n c => n + c.utf8Size) 0

/-- The text after its first `n` bytes; none where no character ends there. -/
def dropBytes : Nat → List Char → Option (List Char)
  | 0, text => some text
  | _ + 1, [] => none
  | n + 1, c :: rest => if c.utf8Size ≤ n + 1 then dropBytes (n + 1 - c.utf8Size) rest else none

/-- Collects `n` bytes of characters behind those already taken, which are listed last first. -/
def takeBytesOnto (taken : List Char) : Nat → List Char → Option (List Char)
  | 0, _ => some taken.reverse
  | _ + 1, [] => none
  | n + 1, c :: rest =>
    if c.utf8Size ≤ n + 1 then takeBytesOnto (c :: taken) (n + 1 - c.utf8Size) rest else none

/-- The first `n` bytes of the text; none where no character ends there. -/
def takeBytes (n : Nat) (text : List Char) : Option (List Char) :=
  takeBytesOnto [] n text

/-- An offset is on a boundary when a character ends there, or none has begun. -/
def isBoundary (n : Nat) (text : List Char) : Bool :=
  (dropBytes n text).isSome

/-- The characters between two offsets; none unless they are ordered and both on a boundary. -/
def slice (start stop : Nat) (text : List Char) : Option (List Char) :=
  if start ≤ stop then (dropBytes start text).bind (takeBytes (stop - start)) else none

private theorem foldl_size (text : List Char) (n : Nat) :
    text.foldl (fun n c => n + c.utf8Size) n = n + byteLength text := by
  induction text generalizing n with
  | nil => rfl
  | cons c rest ih =>
    simp only [byteLength, List.foldl_cons, Nat.zero_add] at *
    rw [ih (n + c.utf8Size), ih c.utf8Size]
    omega

@[simp] theorem byteLength_nil : byteLength [] = 0 := rfl

@[simp] theorem byteLength_cons (c : Char) (rest : List Char) :
    byteLength (c :: rest) = c.utf8Size + byteLength rest := by
  rw [byteLength, List.foldl_cons, foldl_size, Nat.zero_add]

@[simp] theorem byteLength_append (a b : List Char) :
    byteLength (a ++ b) = byteLength a + byteLength b := by
  induction a with
  | nil => simp
  | cons c rest ih => simp [ih, Nat.add_assoc]

/-- The bytes counted are those of the UTF-8 form. -/
theorem byteLength_eq_utf8ByteSize (text : List Char) :
    byteLength text = (String.ofList text).utf8ByteSize := by
  induction text with
  | nil => simp [String.ofList_nil]
  | cons c rest ih =>
    rw [byteLength_cons, ih, String.ofList_cons, String.utf8ByteSize_append,
      String.utf8ByteSize_singleton]

@[simp] theorem byteLength_toList (s : String) : byteLength s.toList = s.utf8ByteSize := by
  rw [byteLength_eq_utf8ByteSize, String.ofList_toList]

@[simp] theorem dropBytes_zero (text : List Char) : dropBytes 0 text = some text := by
  cases text <;> rfl

/-- Dropping a character's bytes drops the character. -/
theorem dropBytes_size_cons (c : Char) (n : Nat) (rest : List Char) :
    dropBytes (c.utf8Size + n) (c :: rest) = dropBytes n rest := by
  have pos := c.utf8Size_pos
  obtain ⟨m, hm⟩ : ∃ m, c.utf8Size + n = m + 1 := ⟨c.utf8Size + n - 1, by omega⟩
  rw [hm, dropBytes, if_pos (by omega), ← hm, Nat.add_sub_cancel_left]

/-- Dropping the bytes of a leading part leaves the other part. -/
theorem dropBytes_byteLength_append (a : List Char) (n : Nat) (b : List Char) :
    dropBytes (byteLength a + n) (a ++ b) = dropBytes n b := by
  induction a with
  | nil => simp
  | cons c rest ih => rw [byteLength_cons, Nat.add_assoc, List.cons_append, dropBytes_size_cons, ih]

/-- What is dropped is a leading part of exactly that many bytes. -/
theorem exists_of_dropBytes {n : Nat} {text rest : List Char} (h : dropBytes n text = some rest) :
    ∃ taken, text = taken ++ rest ∧ byteLength taken = n := by
  induction text generalizing n with
  | nil =>
    cases n with
    | zero => exact ⟨[], by simpa using h, rfl⟩
    | succ n => simp [dropBytes] at h
  | cons c tail ih =>
    cases n with
    | zero => exact ⟨[], by simpa using h, rfl⟩
    | succ n =>
      simp only [dropBytes] at h
      split at h
      · obtain ⟨taken, rfl, size⟩ := ih h
        exact ⟨c :: taken, rfl, by simp [size]; omega⟩
      · cases h

/-- An offset cuts the text exactly into a leading part of that many bytes and the rest. -/
theorem dropBytes_eq_some_iff {n : Nat} {text rest : List Char} :
    dropBytes n text = some rest ↔ ∃ taken, text = taken ++ rest ∧ byteLength taken = n := by
  refine ⟨exists_of_dropBytes, ?_⟩
  rintro ⟨taken, rfl, rfl⟩
  simpa using dropBytes_byteLength_append taken 0 rest

/-- Going on from a cut moves the offset by the bytes passed. -/
theorem dropBytes_add {n : Nat} {text taken rest : List Char}
    (h : dropBytes n text = some (taken ++ rest)) :
    dropBytes (n + byteLength taken) text = some rest := by
  obtain ⟨before, rfl, rfl⟩ := exists_of_dropBytes h
  exact dropBytes_eq_some_iff.2 ⟨before ++ taken, by simp, by simp⟩

end ScriptLexer.Text
