import ScriptLexer.Json.Reading

/-!
# Documents read back

What was laid out reads back as what it was: the text is cut into the lexemes of the value, and the
lexemes are put together to the value, whatever stands behind them.
-/
namespace ScriptLexer.Json

/-! ## The lexemes of a value -/

mutual

def lexemes : Json → List Lexeme
  | number value => [.number value]
  | string value => [.string value]
  | array [] => [.beginArray, .endArray]
  | array (item :: items) => .beginArray :: (item.lexemes ++ lexemesOfItems items ++ [.endArray])
  | object [] => [.beginObject, .endObject]
  | object ((key, value) :: members) =>
    .beginObject :: .string key :: .colon ::
      (value.lexemes ++ lexemesOfMembers members ++ [.endObject])

/-- The lexemes of further items, each after a comma. -/
def lexemesOfItems : List Json → List Lexeme
  | [] => []
  | item :: items => .comma :: (item.lexemes ++ lexemesOfItems items)

/-- The lexemes of further members, each after a comma. -/
def lexemesOfMembers : List (String × Json) → List Lexeme
  | [] => []
  | (key, value) :: members =>
    .comma :: .string key :: .colon :: (value.lexemes ++ lexemesOfMembers members)

end

/-! ## Values are read back from their lexemes -/

/-- An array is entered unless it ends at once, and a value does not begin with the end of an
array. -/
theorem readValue_beginArray (value : Json) (stack : List Frame) (rest : List Lexeme) :
    readValue stack (.beginArray :: (value.lexemes ++ rest)) =
      readValue (.items [] :: stack) (value.lexemes ++ rest) := by
  fun_cases lexemes value <;> rfl

mutual

/-- Where a value begins, its lexemes are read as the value, whatever is open around it. -/
theorem readValue_lexemes : ∀ (value : Json) (stack : List Frame) (rest : List Lexeme),
    readValue stack (value.lexemes ++ rest) = readBehind value stack rest
  | .number _, _, _ => rfl
  | .string _, _, _ => rfl
  | .array [], _, _ => rfl
  | .array (item :: items), stack, rest => by
    rw [lexemes, List.cons_append, List.append_assoc, List.append_assoc, readValue_beginArray,
      readValue_lexemes item, List.cons_append, List.nil_append, readBehind_items items]
    rfl
  | .object [], _, _ => rfl
  | .object ((key, value) :: members), stack, rest => by
    rw [lexemes, List.cons_append, List.cons_append, List.cons_append, List.append_assoc,
      List.append_assoc, readValue, readValue_lexemes value, List.cons_append, List.nil_append,
      readBehind_members members]
    rfl

/-- Behind an item, the others are read into the open array, up to its end. -/
theorem readBehind_items :
    ∀ (items : List Json) (item : Json) (done : List Json) (stack : List Frame)
      (rest : List Lexeme),
      readBehind item (.items done :: stack) (lexemesOfItems items ++ .endArray :: rest) =
        readBehind (.array (done ++ item :: items)) stack rest
  | [], _, _, _, _ => rfl
  | next :: items, item, done, stack, rest => by
    rw [lexemesOfItems, List.cons_append, List.append_assoc, readBehind, readValue_lexemes next,
      readBehind_items items, List.append_assoc, List.singleton_append]

/-- Behind a member, the others are read into the open object, up to its end. -/
theorem readBehind_members :
    ∀ (members : List (String × Json)) (value : Json) (done : List (String × Json))
      (key : String) (stack : List Frame) (rest : List Lexeme),
      readBehind value (.members done key :: stack)
          (lexemesOfMembers members ++ .endObject :: rest) =
        readBehind (.object (done ++ (key, value) :: members)) stack rest
  | [], _, _, _, _, _ => rfl
  | (next, later) :: members, value, done, key, stack, rest => by
    rw [lexemesOfMembers, List.cons_append, List.cons_append, List.cons_append, List.append_assoc,
      readBehind, readValue_lexemes later, readBehind_members members, List.append_assoc,
      List.singleton_append]

end

/-! ## Lexemes are read back from their layout -/

/-- No digit stands ahead, so a number that ends here is complete. -/
def NoDigit (text : List Char) : Prop := ∀ c ∈ text.head?, Text.digitValue? 10 c = none

theorem noDigit_cons {c : Char} (plain : Text.digitValue? 10 c = none) (text : List Char) :
    NoDigit (c :: text) := by
  intro head isHead
  rwa [← Option.some.inj isHead]

theorem scan_of_pass {state next : ScanState} {c : Char} {lexemes : List Lexeme}
    (passed : state.pass c = some (lexemes, next)) (rest : List Char) :
    scan state (c :: rest) = (scan next rest).map (lexemes ++ ·) := by
  rw [scan, passed]

/-- A character that completes no lexeme. -/
theorem scan_of_silent {state next : ScanState} {c : Char} (passed : state.pass c = some ([], next))
    (rest : List Char) : scan state (c :: rest) = scan next rest := by
  rw [scan_of_pass passed]
  exact Option.map_id'

theorem scan_newLine (indent : Nat) (rest : List Char) :
    scan .between (newLine indent ++ rest) = scan .between rest := by
  have blanks : scan .between (List.replicate indent ' ' ++ rest) = scan .between rest := by
    induction indent with
    | zero => rfl
    | succ indent ih =>
      rw [List.replicate_succ, List.cons_append, ← ih]
      exact scan_of_silent rfl _
  rw [newLine, List.cons_append, ← blanks]
  exact scan_of_silent rfl _

/-! ### Numbers -/

theorem digitValue?_digitChar :
    ∀ digit < 10, Text.digitValue? 10 (Nat.digitChar digit) = some digit := by decide

theorem pass_digitChar : ∀ digit < 10,
    ScanState.pass (Nat.digitChar digit) .between = some ([], .number digit) := by
  decide

theorem scan_number {value : Nat} {rest : List Char} (ends : NoDigit rest) :
    scan (.number value) rest = (scan .between rest).map ([.number value] ++ ·) := by
  cases rest with
  | nil => rfl
  | cons c rest =>
    have plain := ends c rfl
    cases entered : ScanState.enter c with
    | none => simp [scan, ScanState.pass, plain, entered]
    | some found =>
      have passed :
          ScanState.pass c (.number value) = some (.number value :: found.1, found.2) := by
        simp [ScanState.pass, plain, entered]
      have between : ScanState.pass c .between = some (found.1, found.2) := entered
      rw [scan_of_pass passed, scan_of_pass between, Option.map_map]
      rfl

/-- The digits of a number are read from the front; no prefix of them is zero, unless the number
is. -/
theorem scan_toDigits (value : Nat) (rest : List Char) :
    scan .between (Nat.toDigits 10 value ++ rest) = scan (.number value) rest := by
  induction value using Nat.strongRecOn generalizing rest with
  | ind value ih =>
    by_cases small : value < 10
    · rw [Nat.toDigits_of_lt_base small, List.singleton_append]
      exact scan_of_silent (pass_digitChar value small) rest
    · have front : value / 10 ≠ 0 := by omega
      rw [Nat.toDigits_of_base_le (by omega) (by omega), List.append_assoc,
        ih (value / 10) (by omega)]
      have passed : ScanState.pass (Nat.digitChar (value % 10)) (.number (value / 10)) =
          some ([], .number value) := by
        rw [ScanState.pass, digitValue?_digitChar _ (Nat.mod_lt value (by decide))]
        simp [front, Nat.div_add_mod]
      exact scan_of_silent passed rest

/-! ### Strings -/

theorem digitValue?_hexDigit :
    ∀ digit < 16, Text.digitValue? 16 (Text.hexDigit digit) = some digit := by decide

/-- A control character is read back from its code unit. -/
theorem scan_controlChar (read : List Char) {c : Char} (control : c.toNat < 0x20)
    (rest : List Char) :
    scan (.string read) ('\\' :: 'u' :: '0' :: '0' :: Text.hexDigit (c.toNat / 16) ::
      Text.hexDigit (c.toNat % 16) :: rest) = scan (.string (c :: read)) rest := by
  have high := digitValue?_hexDigit (c.toNat / 16) (by omega)
  have low := digitValue?_hexDigit (c.toNat % 16) (by omega)
  have behindHigh : ScanState.pass (Text.hexDigit (c.toNat / 16)) (.unit read none [0, 0]) =
      some ([], .unit read none [0, 0, c.toNat / 16]) := by
    simp [ScanState.pass, high]
  have behindLow :
      ScanState.pass (Text.hexDigit (c.toNat % 16)) (.unit read none [0, 0, c.toNat / 16]) =
        some ([], .string (c :: read)) := by
    have unit : c.toNat / 16 * 16 + c.toNat % 16 = c.toNat := Nat.div_add_mod' _ _
    have noSurrogate : ¬ (0xD800 ≤ c.toNat ∧ c.toNat < 0xDC00) := by omega
    have noSecond : ¬ (0xDC00 ≤ c.toNat ∧ c.toNat < 0xE000) := by omega
    simp [ScanState.pass, low, unit, ScanState.behindUnit, noSurrogate, noSecond]
  calc scan (.string read) _
    _ = scan (.escape read none) _ := scan_of_silent rfl _
    _ = scan (.unit read none []) _ := scan_of_silent rfl _
    _ = scan (.unit read none [0]) _ := scan_of_silent rfl _
    _ = scan (.unit read none [0, 0]) _ := scan_of_silent rfl _
    _ = scan (.unit read none [0, 0, c.toNat / 16]) _ := scan_of_silent behindHigh _
    _ = scan (.string (c :: read)) rest := scan_of_silent behindLow _

theorem scan_escapeChar (read : List Char) (c : Char) (rest : List Char) :
    scan (.string read) (escapeChar c ++ rest) = scan (.string (c :: read)) rest := by
  unfold escapeChar
  split
  case h_8 notQuote notBackslash _ _ _ _ _ =>
    by_cases control : c.toNat < 0x20
    · rw [if_pos control]
      exact scan_controlChar read control rest
    · rw [if_neg control]
      apply scan_of_silent
      rw [ScanState.pass, if_neg notQuote, if_neg notBackslash, if_neg control]
  all_goals exact (scan_of_silent rfl _).trans (scan_of_silent rfl _)

theorem scan_quote (s : String) (rest : List Char) :
    scan .between (quote s ++ rest) = (scan .between rest).map ([.string s] ++ ·) := by
  have body : ∀ (text read : List Char),
      scan (.string read) (text.flatMap escapeChar ++ '"' :: rest) =
      (scan .between rest).map ([.string (String.ofList (read.reverse ++ text))] ++ ·) := by
    intro text
    induction text with
    | nil =>
      intro read
      rw [List.append_nil]
      exact scan_of_pass rfl rest
    | cons c text ih =>
      intro read
      rw [List.flatMap_cons, List.append_assoc, scan_escapeChar, ih, List.reverse_cons,
        List.append_assoc]
      rfl
  have read := body s.toList []
  rw [List.reverse_nil, List.nil_append, String.ofList_toList] at read
  rw [quote, List.append_assoc, List.cons_append, ← read]
  exact scan_of_silent rfl _

/-! ### Layouts -/

theorem scan_sign (c : Char) (lexeme : Lexeme)
    (enters : ScanState.pass c .between = some ([lexeme], .between)) (rest : List Char) :
    scan .between (c :: rest) = (scan .between rest).map ([lexeme] ++ ·) :=
  scan_of_pass enters rest

theorem scan_blank (rest : List Char) : scan .between (' ' :: rest) = scan .between rest :=
  scan_of_silent rfl rest

theorem noDigit_layOutItems (indent : Nat) (items : List Json) {rest : List Char}
    (ends : NoDigit rest) : NoDigit (layOutItems indent items ++ rest) := by
  cases items with
  | nil => exact ends
  | cons item items => exact noDigit_cons (by decide) _

theorem noDigit_layOutMembers (indent : Nat) (members : List (String × Json)) {rest : List Char}
    (ends : NoDigit rest) : NoDigit (layOutMembers indent members ++ rest) := by
  cases members with
  | nil => exact ends
  | cons member members => exact noDigit_cons (by decide) _

theorem noDigit_newLine (indent : Nat) (rest : List Char) : NoDigit (newLine indent ++ rest) :=
  noDigit_cons (by decide) _

mutual

/-- A layout is cut into the lexemes of its value. -/
theorem scan_layOut : ∀ (value : Json) (indent : Nat) {rest : List Char}, NoDigit rest →
    scan .between (value.layOut indent ++ rest) = (scan .between rest).map (value.lexemes ++ ·)
  | .number value, indent, rest, ends => by
    rw [layOut, Nat.toString_eq_repr, Nat.toList_repr, scan_toDigits, scan_number ends, lexemes]
  | .string value, _, rest, _ => by rw [layOut, scan_quote, lexemes]
  | .array [], _, rest, _ => by
    simp only [layOut, lexemes, List.cons_append, List.nil_append]
    rw [scan_sign '[' .beginArray rfl, scan_sign ']' .endArray rfl, Option.map_map]
    rfl
  | .array (item :: items), indent, rest, _ => by
    simp only [layOut, lexemes, List.cons_append, List.append_assoc, List.nil_append]
    rw [scan_sign '[' .beginArray rfl, scan_newLine,
      scan_layOut item _ (noDigit_layOutItems _ _ (noDigit_newLine _ _)),
      scan_layOutItems items _ (noDigit_newLine _ _), scan_newLine, scan_sign ']' .endArray rfl]
    simp only [Option.map_map, Function.comp_def, List.cons_append, List.nil_append]
  | .object [], _, rest, _ => by
    simp only [layOut, lexemes, List.cons_append, List.nil_append]
    rw [scan_sign '\x7b' .beginObject rfl, scan_sign '\x7d' .endObject rfl, Option.map_map]
    rfl
  | .object ((key, value) :: members), indent, rest, _ => by
    simp only [layOut, lexemes, List.cons_append, List.append_assoc, List.nil_append]
    rw [scan_sign '\x7b' .beginObject rfl, scan_newLine, scan_quote, scan_sign ':' .colon rfl,
      scan_blank, scan_layOut value _ (noDigit_layOutMembers _ _ (noDigit_newLine _ _)),
      scan_layOutMembers members _ (noDigit_newLine _ _), scan_newLine,
      scan_sign '\x7d' .endObject rfl]
    simp only [Option.map_map, Function.comp_def, List.cons_append, List.nil_append]

theorem scan_layOutItems : ∀ (items : List Json) (indent : Nat) {rest : List Char}, NoDigit rest →
    scan .between (layOutItems indent items ++ rest) =
      (scan .between rest).map (lexemesOfItems items ++ ·)
  | [], _, rest, _ => Option.map_id'.symm
  | item :: items, indent, rest, ends => by
    simp only [layOutItems, lexemesOfItems, List.cons_append, List.append_assoc]
    rw [scan_sign ',' .comma rfl, scan_newLine, scan_layOut item _ (noDigit_layOutItems _ _ ends),
      scan_layOutItems items _ ends]
    simp only [Option.map_map, Function.comp_def, List.cons_append, List.nil_append]

theorem scan_layOutMembers :
    ∀ (members : List (String × Json)) (indent : Nat) {rest : List Char}, NoDigit rest →
      scan .between (layOutMembers indent members ++ rest) =
        (scan .between rest).map (lexemesOfMembers members ++ ·)
  | [], _, rest, _ => Option.map_id'.symm
  | (key, value) :: members, indent, rest, ends => by
    simp only [layOutMembers, lexemesOfMembers, List.cons_append, List.append_assoc,
      List.nil_append]
    rw [scan_sign ',' .comma rfl, scan_newLine, scan_quote, scan_sign ':' .colon rfl, scan_blank,
      scan_layOut value _ (noDigit_layOutMembers _ _ ends), scan_layOutMembers members _ ends]
    simp only [Option.map_map, Function.comp_def, List.cons_append, List.nil_append]

end

/-- A document is read back as the value that was rendered. -/
theorem decode_render (value : Json) : decode (value.render ++ "\n") = some value := by
  have cut := scan_layOut value 0 (noDigit_newLine 0 [])
  rw [scan_newLine, scan, ScanState.finish, Option.map_some] at cut
  have read := readValue_lexemes value [] []
  rw [decode, render, String.toList_append, String.toList_ofList]
  exact (congrArg (· >>= readValue []) cut).trans read

/-- Escapes that are never written are read all the same. -/
example : decode "[ 10,\t\"\\u00E9\\ud83d\\ude00\"]" =
    some (.array [.number 10, .string "é😀"]) := by rfl

end ScriptLexer.Json
