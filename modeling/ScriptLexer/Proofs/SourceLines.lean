import ScriptLexer.Proofs.Text.Cut
import ScriptLexer.Proofs.Text.Lines
import ScriptLexer.Source.Offsets

/-!
# Lines of a source

The lines of a source are the pieces of its text between line breaks, less the carriage returns at
the end of each. They can as well be cut out at the offsets at which they start; that cut never
leaves the text and finds the same lines. Joined by line breaks, the lines are the text again, but
for the carriage returns that end a line.
-/
namespace ScriptLexer

namespace Text

/-- Before the next line break, or before the end if there is none, stand carriage returns alone. -/
def endsInReturns (text : List Char) : Bool := (text.dropWhile (· == '\r')).head?.all (· == '\n')

/-- The text without the runs of carriage returns directly before a line break or at the end. -/
def withoutEndReturns : List Char → List Char
  | [] => []
  | c :: rest =>
    if c = '\r' ∧ endsInReturns rest = true then withoutEndReturns rest
    else c :: withoutEndReturns rest

end Text

/-! ## Splitting and joining -/

namespace Text

variable {text line back : List Char} {lines : List (List Char)}

theorem splitLines_eq_splitOn (text : List Char) : splitLines text = text.splitOn '\n' := by
  induction text with
  | nil => rfl
  | cons c rest ih =>
    rw [List.splitOn_cons_eq_if_modifyHead, ← ih]
    by_cases isBreak : c = '\n'
    · rw [isBreak, splitLines_break]
      rfl
    · obtain ⟨first, others, split, _⟩ := exists_firstLine rest
      rw [splitLines_plain isBreak split, split]
      simp [isBreak]

/-- Joined by line breaks, the pieces of a text are the text. -/
theorem intercalate_splitLines (text : List Char) :
    ['\n'].intercalate (splitLines text) = text := by
  rw [splitLines_eq_splitOn]
  exact List.intercalate_splitOn '\n'

theorem length_splitLines (text : List Char) : (splitLines text).length = 1 + text.count '\n' := by
  induction text with
  | nil => rfl
  | cons c rest ih =>
    by_cases isBreak : c = '\n'
    · rw [isBreak, splitLines_break, List.length_cons, ih, List.count_cons_self]
      omega
    · obtain ⟨first, others, split, _⟩ := exists_firstLine rest
      rw [split] at ih
      rw [splitLines_plain isBreak split, List.count_cons_of_ne isBreak]
      exact ih

theorem break_notMem_splitLines (text : List Char) : ∀ line ∈ splitLines text, '\n' ∉ line := by
  induction text with
  | nil => simp [splitLines]
  | cons c rest ih =>
    intro line member
    by_cases isBreak : c = '\n'
    · rw [isBreak, splitLines_break, List.mem_cons] at member
      rcases member with empty | later
      · simp [empty]
      · exact ih line later
    · obtain ⟨first, others, split, _⟩ := exists_firstLine rest
      rw [splitLines_plain isBreak split, List.mem_cons] at member
      rw [split] at ih
      rcases member with goesOn | later
      · have within := ih first List.mem_cons_self
        simp [goesOn, within, Ne.symm isBreak]
      · exact ih line (List.mem_cons_of_mem _ later)

/-! ## Offsets of the lines -/

/-- The offsets of lines that stand one behind the other from an offset on, with a line break
between. -/
def startsFrom (offset : Nat) : List (List Char) → List Nat
  | [] => []
  | line :: others => offset :: startsFrom (offset + byteLength line + 1) others

/-- The offsets behind line breaks are those of the pieces, except the first. -/
theorem cons_breakEnds (offset : Nat) (text : List Char) :
    offset :: breakEnds offset text = startsFrom offset (splitLines text) := by
  induction text generalizing offset with
  | nil => rfl
  | cons c rest ih =>
    by_cases isBreak : c = '\n'
    · have size : offset + c.utf8Size = offset + 1 := by
        rw [isBreak]
        rfl
      rw [breakEnds, if_pos isBreak, size, ih, isBreak, splitLines_break]
      rfl
    · obtain ⟨first, others, split, _⟩ := exists_firstLine rest
      have next := ih (offset + c.utf8Size)
      rw [split, startsFrom, List.cons.injEq] at next
      rw [breakEnds, if_neg isBreak, next.2, splitLines_plain isBreak split,
        startsFrom, byteLength_cons]
      simp only [Nat.add_assoc]

theorem length_startsFrom (offset : Nat) (lines : List (List Char)) :
    (startsFrom offset lines).length = lines.length := by
  induction lines generalizing offset with
  | nil => rfl
  | cons line others ih => rw [startsFrom, List.length_cons, List.length_cons, ih]

/-- A line starts behind all lines before it and their line breaks. -/
theorem getElem?_startsFrom (offset : Nat) {index : Nat} (inside : index < lines.length) :
    (startsFrom offset lines)[index]? =
      some (offset + byteLength (endedLines (lines.take index))) := by
  induction lines generalizing offset index with
  | nil => simp at inside
  | cons line others ih =>
    cases index with
    | zero => simp [startsFrom, endedLines]
    | succ index =>
      have breakSize : byteLength ['\n'] = 1 := rfl
      rw [startsFrom, List.getElem?_cons_succ, ih _ (by simpa using inside), List.take_succ_cons]
      simp only [endedLines, List.flatMap_cons, byteLength_append, breakSize]
      congr 1
      omega

/-- Behind lines with their line breaks, the joined text goes on with the line that comes next. -/
theorem intercalate_eq_append {index : Nat} (inside : index < lines.length) :
    ['\n'].intercalate lines =
      endedLines (lines.take index) ++ ['\n'].intercalate (lines.drop index) := by
  induction lines generalizing index with
  | nil => simp at inside
  | cons line others ih =>
    cases index with
    | zero => rfl
    | succ index =>
      have later : index < others.length := by simpa using inside
      obtain ⟨next, more, rfl⟩ :=
        List.exists_cons_of_length_pos (Nat.lt_of_le_of_lt (Nat.zero_le _) later)
      rw [List.intercalate_cons_cons, ih later]
      simp [endedLines]

/-- A text of ended lines splits into the lines, with nothing behind the last line break. -/
theorem splitOn_endedLines (one : ∀ line ∈ lines, '\n' ∉ line) :
    (endedLines lines).splitOn '\n' = lines ++ [[]] := by
  have inside : lines.length < (lines ++ [[]]).length := by simp
  have joined := intercalate_eq_append inside
  rw [List.take_left, List.drop_left, List.intercalate_singleton, List.append_nil] at joined
  rw [← joined, List.splitOn_intercalate]
  · intro line member
    rcases List.mem_append.mp member with among | last
    · exact one line among
    · simp [List.mem_singleton.mp last]
  · simp

/-- From the start of a line up to the start of the next one, or to the end of the text, stands the
line, with its line break if it has one. -/
theorem slice_startsFrom {index : Nat} (inside : index < lines.length) :
    ∃ ending, (ending = [] ∨ ending = ['\n']) ∧
      slice (byteLength (endedLines (lines.take index)))
        ((startsFrom 0 lines)[index + 1]?.getD (byteLength (['\n'].intercalate lines)))
        (['\n'].intercalate lines) = some (lines[index] ++ ending) := by
  have whole := intercalate_eq_append inside
  rw [List.drop_eq_getElem_cons inside] at whole
  by_cases next : index + 1 < lines.length
  · refine ⟨['\n'], .inr rfl, ?_⟩
    have stop : byteLength (endedLines (lines.take (index + 1))) =
        byteLength (endedLines (lines.take index)) + byteLength (lines[index] ++ ['\n']) := by
      rw [← List.take_append_getElem inside, endedLines, List.flatMap_append, byteLength_append,
        List.flatMap_singleton]
      rfl
    rw [getElem?_startsFrom 0 next, Option.getD_some, Nat.zero_add, stop, whole,
      List.drop_eq_getElem_cons next, List.intercalate_cons_cons]
    exact slice_append _ _ _
  · refine ⟨[], .inl rfl, ?_⟩
    have last : lines.length ≤ index + 1 := Nat.le_of_not_lt next
    rw [List.drop_of_length_le last, List.intercalate_singleton] at whole
    rw [List.getElem?_eq_none (by rwa [length_startsFrom]), Option.getD_none,
      whole, byteLength_append, List.append_nil]
    simpa using slice_append (endedLines (lines.take index)) lines[index] []

/-! ## Ends of lines -/

theorem trimLineEnd_break (line : List Char) : trimLineEnd (line ++ ['\n']) = trimLineEnd line := by
  simp [trimLineEnd]

/-- Without a line break in it, a line is trimmed of carriage returns. -/
theorem trimLineEnd_line (one : '\n' ∉ line) : trimLineEnd line = trimReturns line := by
  have same : ∀ reversed : List Char, '\n' ∉ reversed →
      reversed.dropWhile (fun c => c == '\n' || c == '\r') = reversed.dropWhile (· == '\r') := by
    intro reversed
    induction reversed with
    | nil => simp
    | cons c rest ih =>
      intro noBreaks
      rw [List.mem_cons, not_or] at noBreaks
      have noBreak : (c == '\n') = false := beq_false_of_ne (Ne.symm noBreaks.1)
      rw [List.dropWhile_cons, List.dropWhile_cons, noBreak, Bool.false_or, ih noBreaks.2]
  rw [trimLineEnd, trimReturns, same line.reverse (by simpa using one)]

/-- A line is nothing but carriage returns exactly where trimming leaves nothing of it. -/
theorem trimReturns_eq_nil_iff : trimReturns line = [] ↔ ∀ c ∈ line, c = '\r' := by
  constructor
  · intro empty
    obtain ⟨returns, split, all⟩ := exists_returns line
    rw [empty, List.nil_append] at split
    rw [split]
    exact all
  · exact trimReturns_returns

/-- A character that is no carriage return, or that stands before another character that is kept, is
kept. -/
theorem trimReturns_cons {c : Char} (kept : ¬ (c = '\r' ∧ trimReturns line = [])) :
    trimReturns (c :: line) = c :: trimReturns line := by
  obtain ⟨returns, split, all⟩ := exists_returns line
  have last : (c :: trimReturns line).getLast? ≠ some '\r' := by
    cases trimmed : trimReturns line with
    | nil => simpa using fun isReturn => kept ⟨isReturn, trimmed⟩
    | cons next others =>
      rw [List.getLast?_cons_cons, ← trimmed]
      exact getLast?_trimReturns line
  calc
    trimReturns (c :: line) = trimReturns (c :: trimReturns line ++ returns) := by
      rw [List.cons_append, ← split]
    _ = c :: trimReturns line ++ trimReturns returns := trimReturns_append last returns
    _ = c :: trimReturns line := by rw [trimReturns_returns all, List.append_nil]

theorem endsInReturns_append (one : '\n' ∉ line) (ended : back.head?.all (· == '\n') = true) :
    endsInReturns (line ++ back) = true ↔ trimReturns line = [] := by
  rw [trimReturns_eq_nil_iff]
  induction line with
  | nil =>
    have stays : back.dropWhile (· == '\r') = back := by
      cases back with
      | nil => rfl
      | cons c rest =>
        obtain rfl : c = '\n' := by simpa using ended
        rfl
    simp [endsInReturns, stays, ended]
  | cons c rest ih =>
    rw [List.mem_cons, not_or] at one
    by_cases isReturn : c = '\r'
    · have next : endsInReturns (c :: rest ++ back) = endsInReturns (rest ++ back) := by
        simp [endsInReturns, isReturn]
      rw [next, ih one.2]
      simp [isReturn]
    · have stops : endsInReturns (c :: rest ++ back) = false := by
        simp [endsInReturns, isReturn, Ne.symm one.1]
      rw [stops, List.forall_mem_cons]
      simp [isReturn]

/-- What is left out of a line in its text is what is trimmed off its end. -/
theorem withoutEndReturns_append (one : '\n' ∉ line) (ended : back.head?.all (· == '\n') = true) :
    withoutEndReturns (line ++ back) = trimReturns line ++ withoutEndReturns back := by
  induction line with
  | nil => rfl
  | cons c rest ih =>
    rw [List.mem_cons, not_or] at one
    have isEnd := endsInReturns_append one.2 ended
    rw [List.cons_append, withoutEndReturns, ih one.2]
    simp only [isEnd]
    by_cases trailing : c = '\r' ∧ trimReturns rest = []
    · have trimmed : trimReturns (c :: rest) = [] := by
        rw [trimReturns_eq_nil_iff, List.forall_mem_cons]
        exact ⟨trailing.1, trimReturns_eq_nil_iff.mp trailing.2⟩
      rw [if_pos trailing, trimmed, trailing.2]
    · rw [if_neg trailing, trimReturns_cons trailing, List.cons_append]

theorem intercalate_trimReturns (one : ∀ line ∈ lines, '\n' ∉ line) :
    ['\n'].intercalate (lines.map trimReturns) = withoutEndReturns (['\n'].intercalate lines) := by
  induction lines with
  | nil => rfl
  | cons line others ih =>
    have here := one line List.mem_cons_self
    have later := ih fun other member => one other (List.mem_cons_of_mem _ member)
    cases others with
    | nil =>
      have whole := @withoutEndReturns_append line [] here rfl
      simpa [withoutEndReturns] using whole.symm
    | cons next more =>
      have noReturn :
          ¬ ('\n' = '\r' ∧ endsInReturns (['\n'].intercalate (next :: more)) = true) := by
        simp
      rw [List.intercalate_cons_cons, List.append_assoc, withoutEndReturns_append here rfl,
        List.singleton_append, withoutEndReturns, if_neg noReturn, ← later]
      simp

theorem withoutEndReturns_eq_self (noReturn : '\r' ∉ text) : withoutEndReturns text = text := by
  induction text with
  | nil => rfl
  | cons c rest ih =>
    rw [List.mem_cons, not_or] at noReturn
    rw [withoutEndReturns, if_neg fun isReturn => noReturn.1 isReturn.1.symm, ih noReturn.2]

end Text

/-! ## The lines of a source -/

namespace Source

variable (source : Source)

theorem lineStarts_eq : source.lineStarts = Text.startsFrom 0 source.rawLines :=
  Text.cons_breakEnds 0 source.text

/-- Cutting a line out by offsets never leaves the text, and finds the line that splitting finds. -/
theorem lineAt_eq (number : Nat) : source.lineAt number = .ok (source.line? number) := by
  cases number with
  | zero => rfl
  | succ index =>
    have text : ['\n'].intercalate source.rawLines = source.text :=
      Text.intercalate_splitLines source.text
    unfold lineAt line?
    rw [lineStarts_eq, ← text]
    dsimp only
    by_cases inside : index < source.rawLines.length
    · have one :=
        Text.break_notMem_splitLines source.text source.rawLines[index] (List.getElem_mem inside)
      obtain ⟨ending, isEnd, cut⟩ := Text.slice_startsFrom inside
      rw [Text.getElem?_startsFrom 0 inside, Nat.zero_add, List.getElem?_eq_getElem inside]
      simp only [cut]
      rcases isEnd with rfl | rfl
      · rw [List.append_nil, Text.trimLineEnd_line one]
        rfl
      · rw [Text.trimLineEnd_break, Text.trimLineEnd_line one]
        rfl
    · have beyond : source.rawLines.length ≤ index := Nat.le_of_not_lt inside
      rw [List.getElem?_eq_none (by rwa [Text.length_startsFrom]), List.getElem?_eq_none beyond]
      rfl

theorem line?_isSome_iff (number : Nat) :
    (source.line? number).isSome = true ↔ 1 ≤ number ∧ number ≤ source.lineCount := by
  cases number with
  | zero => simp [line?]
  | succ index =>
    rw [line?, Option.isSome_map, isSome_getElem?, lineCount]
    omega

theorem map_line?_range' :
    (List.range' 1 source.lineCount).map source.line? =
      (source.rawLines.map Text.trimReturns).map some := by
  apply List.ext_getElem
  · simp [lineCount]
  · intro index inside _
    have found : index < source.rawLines.length := by simpa [lineCount] using inside
    simp [line?, Nat.add_comm 1 index, found]

/-- What the lines of a source are to its text. -/
structure Rejoins : Prop where
  lineCount : source.lineCount = 1 + source.text.count '\n'
  lineStarts : source.lineStarts.length = source.lineCount
  found : ∀ number, source.lineAt number = .ok (source.line? number)
  numbers : ∀ number, (source.line? number).isSome = true ↔ 1 ≤ number ∧ number ≤ source.lineCount
  plain : ∀ number, ∀ line ∈ source.line? number, '\n' ∉ line ∧ line.getLast? ≠ some '\r'
  rejoined : ∃ lines, (List.range' 1 source.lineCount).map source.line? = lines.map some ∧
    ['\n'].intercalate lines = Text.withoutEndReturns source.text ∧
    ('\r' ∉ source.text → ['\n'].intercalate lines = source.text)

/-- The lines of every source rejoin to its text, but for the carriage returns that end a line. -/
theorem lines_rejoin : source.Rejoins := by
  constructor
  case lineCount => exact Text.length_splitLines source.text
  case lineStarts => rw [lineStarts_eq, Text.length_startsFrom, lineCount]
  case found => exact source.lineAt_eq
  case numbers => exact source.line?_isSome_iff
  case plain =>
    intro number line found
    cases number with
    | zero => cases found
    | succ index =>
      obtain ⟨raw, stands, rfl⟩ := Option.map_eq_some_iff.mp found
      have one := Text.break_notMem_splitLines source.text raw (List.mem_of_getElem? stands)
      exact ⟨fun member => one (Text.mem_of_mem_trimReturns member), Text.getLast?_trimReturns raw⟩
  case rejoined =>
    have joined : ['\n'].intercalate (source.rawLines.map Text.trimReturns) =
        Text.withoutEndReturns source.text := by
      rw [rawLines, Text.intercalate_trimReturns (Text.break_notMem_splitLines source.text),
        Text.intercalate_splitLines]
    refine ⟨_, source.map_line?_range', joined, ?_⟩
    intro noReturn
    rw [joined, Text.withoutEndReturns_eq_self noReturn]

/-- Two carriage returns end the first line; the one on the second line stays, and the last line is
empty. -/
example : Text.withoutEndReturns "a\r\r\n\rb\n\r".toList = "a\n\rb\n".toList := by decide

end Source

end ScriptLexer
