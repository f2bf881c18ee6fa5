import ScriptLexer.Diagnostic.Basic
import ScriptLexer.Proofs.Grammar.Separator
import ScriptLexer.Proofs.Positions

/-!
# Carets

The snippet of a lexical error shows the line on which the error starts and marks the first line of
its lexeme there, neither more nor less. Three notions of a line have to agree for that: the one on
which the lexeme was counted, the one a reader is shown, and the one that the lexeme begins with.
-/
namespace ScriptLexer

open Grammar

/-! ## The formatted snippet -/

namespace Snippet

/-- Formatted, the snippet is its line and under it carets on exactly the marked columns, with
blanks elsewhere. Both stand behind margins of one width, and no caret is in the margin. -/
def Underlined (snippet : Snippet) : Prop :=
  ∃ number margin underline : List Char,
    Text.splitLines snippet.format.toList = [number ++ snippet.line.toList, margin ++ underline] ∧
    number.length = margin.length ∧ '^' ∉ margin ∧ (∀ c ∈ underline, c = ' ' ∨ c = '^') ∧
    ∀ index, underline[index]? = some '^' ↔
      snippet.startColumn ≤ index + 1 ∧ index + 1 < snippet.endColumn

/-- What stands before the source line. -/
def numbered (snippet : Snippet) : List Char :=
  List.replicate (snippet.gutterWidth - (toString snippet.lineNumber).length) ' ' ++
    ((toString snippet.lineNumber).toList ++ [' ', '|', ' '])

/-- What stands before the carets and the blanks between. -/
def margin (snippet : Snippet) : List Char :=
  List.replicate snippet.gutterWidth ' ' ++ [' ', '|', ' ']

def underline (snippet : Snippet) : List Char :=
  List.replicate (snippet.startColumn - 1) ' ' ++
    List.replicate (max (snippet.endColumn - snippet.startColumn) 1) '^'

variable (snippet : Snippet)

theorem format_toList : snippet.format.toList =
    (snippet.numbered ++ snippet.line.toList) ++ '\n' :: (snippet.margin ++ snippet.underline) := by
  have expanded : snippet.format =
      String.ofList
          (List.replicate (snippet.gutterWidth - (toString snippet.lineNumber).length) ' ') ++
        toString snippet.lineNumber ++ " | " ++ snippet.line ++ "\n" ++
        String.ofList (List.replicate snippet.gutterWidth ' ') ++ " | " ++
        String.ofList (List.replicate (snippet.startColumn - 1) ' ') ++
        String.ofList (List.replicate (max (snippet.endColumn - snippet.startColumn) 1) '^') := rfl
  rw [expanded]
  simp [numbered, margin, underline]

theorem numbered_length : snippet.numbered.length = snippet.margin.length := by
  have fits : (toString snippet.lineNumber).length ≤ snippet.gutterWidth := Nat.le_max_left _ _
  simp only [numbered, margin, List.length_append, List.length_replicate, String.length_toList]
  omega

theorem break_notMem_numbered : '\n' ∉ snippet.numbered := by
  simp [numbered, Text.break_notMem_toDigits]

/-- Around a line without a line break there are two lines. -/
theorem splitLines_format {snippet : Snippet} (oneLine : '\n' ∉ snippet.line.toList) :
    Text.splitLines snippet.format.toList =
      [snippet.numbered ++ snippet.line.toList, snippet.margin ++ snippet.underline] := by
  have noBreak : '\n' ∉ snippet.numbered ++ snippet.line.toList := by
    simp [snippet.break_notMem_numbered, oneLine]
  have below : '\n' ∉ snippet.margin ++ snippet.underline := by
    simp [margin, underline]
  rw [snippet.format_toList, Text.splitLines_append_break noBreak, Text.splitLines_line below]

/-- A line without a line break is underlined on the columns that are marked, if there are any. -/
theorem underlined_of_line {snippet : Snippet} (oneLine : '\n' ∉ snippet.line.toList)
    (first : 1 ≤ snippet.startColumn) (marks : snippet.startColumn < snippet.endColumn) :
    snippet.Underlined := by
  refine ⟨snippet.numbered, snippet.margin, snippet.underline, splitLines_format oneLine,
    snippet.numbered_length, ?_, ?_, ?_⟩
  · simp [margin]
  · intro c member
    rw [underline, List.mem_append, List.mem_replicate, List.mem_replicate] at member
    rcases member with ⟨_, blank⟩ | ⟨_, caret⟩
    · exact .inl blank
    · exact .inr caret
  · intro index
    have width : max (snippet.endColumn - snippet.startColumn) 1 =
        snippet.endColumn - snippet.startColumn := by omega
    rw [underline, width]
    by_cases before : index < snippet.startColumn - 1
    · rw [List.getElem?_append_left (by simpa using before), List.getElem?_replicate_of_lt before]
      simp
      omega
    · rw [List.getElem?_append_right (by simpa using before), List.getElem?_replicate]
      simp
      omega

end Snippet

/-! ## Where a lexeme ends its line -/

/-- The findings that errors are about. -/
def Finding.IsReported (finding : Finding) : Prop :=
  finding = .token .operator ∨ finding = .openComment ∨ ∃ cause, finding = .error cause

theorem Located.isReported {options : LexingOptions} {previous : Option Token} {located : Located}
    {error : LexicalError} (member : error ∈ located.errors options previous) :
    located.finding.IsReported := by
  rcases errors_cases options previous located with silent | ⟨cause, _, which⟩
  · rw [silent] at member
    cases member
  · rcases which with ⟨_, _, operator⟩ | ⟨_, comment⟩ | spoiled
    · exact .inl operator
    · exact .inr (.inl comment)
    · exact .inr (.inr ⟨cause, spoiled⟩)

/-- What is reported ends in a carriage return only where its line ends. -/
theorem Stands.stops_of_return {finding : Finding} {lexeme rest : List Char}
    (stands : Stands finding lexeme rest) (reported : finding.IsReported)
    (last : lexeme.getLast? = some '\r') : ∀ c ∈ rest.head?, c = '\n' := by
  obtain ⟨form, ends⟩ := stands
  have member := List.mem_of_getLast? last
  rcases reported with rfl | rfl | ⟨cause, rfl⟩
  · have noLong : ∀ signs ∈ longOperators, '\r' ∉ [signs.1, signs.2] := by decide
    have noShort : ∀ sign ∈ shortOperators, '\r' ∉ [sign] := forall_mem_of_all (by decide)
    obtain ⟨a, b, long, rfl⟩ | ⟨c, short, rfl⟩ := form
    · exact absurd member (noLong _ long)
    · exact absurd member (noShort c short)
  · exact fun c next => absurd (ends c next) id
  · cases cause with
    | unrecognized first =>
      obtain ⟨nothing, rfl⟩ := form
      obtain rfl := List.mem_singleton.mp member
      exact absurd nothing.noBlank (by decide)
    | openString quote => exact fun c next => (ends c next).1
    | number flaw =>
      exact absurd member (Separates.notMem_malformed (separates_of_mem (by decide)) form)
    | illegalIdentifier =>
      exact absurd member (Separates.notMem_illegalIdentifier (separates_of_mem (by decide)) form)
    | operatorSequence previous => exact absurd form id
    | openComment => exact absurd form id

/-- What is reported does not begin with a line break. -/
theorem Stands.begins_line {finding : Finding} {lexeme rest : List Char}
    (stands : Stands finding lexeme rest) (reported : finding.IsReported) :
    ∃ c ∈ (lexeme.takeWhile (· != '\n')).head?, c ≠ '\r' := by
  obtain ⟨c, head, noBlank⟩ := stands.form.begins
  obtain ⟨others, rfl⟩ := List.head?_eq_some_iff.mp head
  have noReturn : c ≠ '\r' := by
    rintro rfl
    revert noBlank
    decide
  suffices noBreak : c ≠ '\n' by
    refine ⟨c, ?_, noReturn⟩
    simp [noBreak]
  have form := stands.form
  rintro rfl
  rcases reported with rfl | rfl | ⟨cause, rfl⟩
  · have noLong : ∀ signs ∈ longOperators, signs.1 ≠ '\n' := by decide
    have noShort : '\n' ∉ shortOperators := by decide
    obtain ⟨a, b, long, same⟩ | ⟨c, short, same⟩ := form
    · exact noLong _ long (List.cons.inj same).1.symm
    · exact noShort ((List.cons.inj same).1 ▸ short)
  · obtain ⟨body, same, _⟩ := form
    exact absurd (List.cons.inj same).1 (by decide)
  · cases cause with
    | unrecognized first =>
      obtain ⟨nothing, same⟩ := form
      exact nothing.noBreak (List.cons.inj same).1.symm
    | openString quote =>
      obtain ⟨quotes, body, _, same | same⟩ := form
      · rw [← (List.cons.inj same).1] at quotes
        exact absurd quotes (by decide)
      · rw [← (List.cons.inj same).1] at quotes
        exact absurd quotes (by decide)
    | number flaw =>
      exact Separates.notMem_malformed (separates_of_mem (by decide)) form List.mem_cons_self
    | illegalIdentifier =>
      exact Separates.notMem_illegalIdentifier (separates_of_mem (by decide))
        form List.mem_cons_self
    | operatorSequence previous => exact form
    | openComment => exact form

/-- The line on which a reported lexeme starts goes on behind the first line of the lexeme, unless
that line ends in carriage returns: then it is over. -/
theorem Stands.exists_line {finding : Finding} {lexeme rest : List Char}
    (stands : Stands finding lexeme rest) (reported : finding.IsReported) :
    ∃ after, (lexeme ++ rest).takeWhile (· != '\n') = lexeme.takeWhile (· != '\n') ++ after ∧
      ((lexeme.takeWhile (· != '\n')).getLast? = some '\r' → after = []) := by
  rw [List.takeWhile_append]
  split
  case isTrue same =>
    have whole : lexeme.takeWhile (· != '\n') = lexeme :=
      (List.takeWhile_prefix _).eq_of_length same
    refine ⟨rest.takeWhile (· != '\n'), by rw [whole], ?_⟩
    intro last
    rw [whole] at last
    have stops := stands.stops_of_return reported last
    cases rest with
    | nil => rfl
    | cons c rest => simp [stops c rfl]
  case isFalse => exact ⟨[], (List.append_nil _).symm, fun _ => rfl⟩

/-! ## The marked columns -/

/-- The snippet shows the line that the error is counted on, and marks there, by column and by
caret, the first line of the lexeme. Of both lines the carriage returns at the end are left out. -/
structure Snippet.Shows (snippet : Snippet) (source : Source) (error : LexicalError) : Prop where
  number : snippet.lineNumber = error.span.line
  line : 1 ≤ error.span.line ∧ ∃ raw, source.rawLines[error.span.line - 1]? = some raw ∧
    snippet.line.toList = Text.trimReturns raw
  start : snippet.startColumn = error.span.column
  columns : 1 ≤ snippet.startColumn ∧ snippet.startColumn < snippet.endColumn ∧
    snippet.endColumn ≤ snippet.line.length + 1
  marked : (snippet.line.toList.drop (snippet.startColumn - 1)).take
      (snippet.endColumn - snippet.startColumn) =
    Text.trimReturns (error.lexeme.toList.takeWhile (· != '\n'))
  underlined : snippet.Underlined

/-- At most one carriage return is left out where the width of a covered text is taken. -/
theorem Text.firstLine_length (text : List Char) :
    (firstLine text).length = (text.takeWhile (· != '\n')).length ∨
      (text.takeWhile (· != '\n')).getLast? = some '\r' ∧
        (firstLine text).length + 1 = (text.takeWhile (· != '\n')).length := by
  unfold firstLine
  dsimp only
  split
  case isTrue ended =>
    have positive : 0 < (text.takeWhile (· != '\n')).length :=
      List.length_pos_of_mem (List.mem_of_getLast? ended.2)
    refine .inr ⟨ended.2, ?_⟩
    rw [List.length_dropLast]
    omega
  case isFalse => exact .inl rfl

/-- The marked range is the first line of the lexeme, up to its carriage returns: clipping the range
to the line takes away no more than they are. -/
theorem marked_columns {before first after : List Char} {width : Nat}
    (begins : ∃ c ∈ first.head?, c ≠ '\r') (ends : first.getLast? = some '\r' → after = [])
    (measured : width = first.length ∨ first.getLast? = some '\r' ∧ width + 1 = first.length) :
    ∃ behind, Text.trimReturns (before ++ (first ++ after)) =
        before ++ (Text.trimReturns first ++ behind) ∧ 0 < (Text.trimReturns first).length ∧
      max (min (1 + before.length + width)
          ((before ++ (Text.trimReturns first ++ behind)).length + 1)) (1 + before.length) =
        1 + before.length + (Text.trimReturns first).length := by
  obtain ⟨returns, split, allReturns⟩ := Text.exists_returns first
  have lengths := congrArg List.length split
  have kept := Text.getLast?_trimReturns first
  have marks : Text.trimReturns first ≠ [] := by
    intro empty
    obtain ⟨c, head, other⟩ := begins
    rw [empty, List.nil_append] at split
    exact other (allReturns c (split ▸ List.mem_of_mem_head? head))
  have positive := List.length_pos_iff.mpr marks
  have keptBehind : (before ++ Text.trimReturns first).getLast? ≠ some '\r' := by
    rwa [List.getLast?_append_of_ne_nil _ marks]
  have trimmed : Text.trimReturns (before ++ (first ++ after)) =
      before ++ (Text.trimReturns first ++ Text.trimReturns (returns ++ after)) := by
    conv => lhs; rw [split]
    rw [List.append_assoc, ← List.append_assoc before, Text.trimReturns_append keptBehind,
      List.append_assoc]
  refine ⟨_, trimmed, positive, ?_⟩
  rw [List.length_append] at lengths
  simp only [List.length_append]
  cases returns with
  | nil =>
    rw [List.append_nil] at split
    rcases measured with same | ⟨last, _⟩
    · rw [List.length_nil] at lengths
      omega
    · rw [split] at last
      exact absurd last kept
  | cons c more =>
    have last : first.getLast? = some '\r' := by
      obtain ⟨d, isLast⟩ : ∃ d, (c :: more).getLast? = some d :=
        ⟨_, List.getLast?_eq_getLast_of_ne_nil (by simp)⟩
      rw [split, List.getLast?_append_of_ne_nil _ (by simp), isLast,
        allReturns d (List.mem_of_getLast? isLast)]
    rw [ends last, List.append_nil, Text.trimReturns_returns allReturns]
    rw [List.length_cons] at lengths
    simp only [List.length_nil]
    omega

/-- The line on which a part of a source starts, as a reader is shown it. -/
theorem Source.line?_of_text {source : Source} {front back : List Char}
    (text : source.text = front ++ back) :
    source.rawLines[front.count '\n']? = some
      (Text.lastLine front ++ back.takeWhile (· != '\n')) := by
  obtain ⟨closed, count, _, goesOn⟩ := Text.splitLines_append front
  obtain ⟨others, split⟩ := Text.splitLines_firstLine back
  rw [rawLines, text, goesOn split, ← count, List.getElem?_append_right (Nat.le_refl _),
    Nat.sub_self]
  rfl

/-- Where a reported lexeme stands in a source, the source shows it. -/
theorem exists_shows {source : Source} {error : LexicalError} {finding : Finding}
    {front back : List Char} (text : source.text = front ++ (error.lexeme.toList ++ back))
    (stands : Stands finding error.lexeme.toList back) (reported : finding.IsReported)
    (line : error.span.line = 1 + front.count '\n')
    (column : error.span.column = 1 + (Text.lastLine front).length)
    (covered : source.textOf error.span = .ok error.lexeme.toList) :
    ∃ snippet, Snippet.ofSpan? source error.span = some snippet ∧ snippet.Shows source error := by
  obtain ⟨after, goesOn, ends⟩ := stands.exists_line reported
  have begins := stands.begins_line reported
  have raw := Source.line?_of_text text
  rw [goesOn] at raw
  have measured := Text.firstLine_length error.lexeme.toList
  generalize isFirst : error.lexeme.toList.takeWhile (· != '\n') = first at *
  obtain ⟨behind, trimmed, positive, clipped⟩ :=
    @marked_columns (Text.lastLine front) first after _ begins
    ends measured
  have shown : source.line? error.span.line =
      some (Text.lastLine front ++ (Text.trimReturns first ++ behind)) := by
    rw [line, Nat.add_comm, Source.line?, raw, Option.map_some, trimmed]
  have oneLine : '\n' ∉ Text.lastLine front ++ (Text.trimReturns first ++ behind) := by
    have noBreak : '\n' ∉ Text.lastLine front ++ (first ++ after) := by
      rw [← goesOn, List.mem_append, not_or]
      exact ⟨Text.break_notMem_lastLine front, fun member => by
        simpa using List.mem_takeWhile_imp member⟩
    rw [← trimmed]
    exact fun member => noBreak (Text.mem_of_mem_trimReturns member)
  refine ⟨_, by rw [Snippet.ofSpan?, shown, Option.map_some], ?_⟩
  simp only [covered, column, clipped]
  constructor
  case number => rfl
  case line =>
    refine ⟨by omega, Text.lastLine front ++ (first ++ after), ?_, ?_⟩
    · rw [line, Nat.add_sub_cancel_left]
      exact raw
    · rw [String.toList_ofList, trimmed]
  case start => exact column.symm
  case columns =>
    simp only [String.length_ofList, List.length_append]
    omega
  case marked =>
    rw [isFirst, String.toList_ofList, Nat.add_sub_cancel_left, Nat.add_sub_cancel_left,
      List.drop_left, List.take_left]
  case underlined =>
    refine Snippet.underlined_of_line ?_ (Nat.le_add_right 1 _) (Nat.lt_add_of_pos_right positive)
    rwa [String.toList_ofList]

/-- The snippet is a part of the rendered diagnostic, on lines of its own. -/
theorem Diagnostic.exists_render {source : Source} {diagnostic : Diagnostic} {snippet : Snippet}
    (shown : Snippet.ofSpan? source diagnostic.span = some snippet) :
    ∃ before after, diagnostic.render source = before ++ "\n" ++ snippet.format ++
      "\n" ++ after := by
  refine ⟨diagnostic.display ++ "\n" ++
    (" --> " ++ source.name ++ ":" ++ toString diagnostic.span.line ++
    ":" ++ toString diagnostic.span.column),
    String.join (diagnostic.helps.map fun help => "  = help: " ++ help ++ "\n"), ?_⟩
  rw [render, shown]
  simp only [String.append_assoc]

/-- Where a lexeme of a division has an error, a source of that text shows it. -/
theorem exists_shows_of_mem_locate {options : LexingOptions} {pieces : List Piece}
    {tail : List Char} (divides : Divides pieces tail) {source : Source}
    (text : source.text = textOf pieces tail) {located : Located}
    (member : located ∈ locate {} pieces) {previous : Option Token} {error : LexicalError}
    (found : error ∈ located.errors options previous) :
    ∃ snippet, Snippet.ofSpan? source error.span = some snippet ∧ snippet.Shows source error := by
  obtain ⟨lexeme, span⟩ := Located.span_of_mem_errors found
  obtain ⟨front, back, split, start, _, stands⟩ := exists_around divides member
  have held := holds_of_mem_locate divides text member
  rw [← lexeme] at split stands held
  rw [← span] at start held
  rw [← text] at split
  obtain ⟨counted, cut, line, column⟩ := held.counted
  have same : counted = front := by
    rw [split, start, Text.takeBytes_append] at cut
    exact (Option.some.inj cut).symm
  subst same
  exact exists_shows split stands (Located.isReported found) line column held.covered

/-- Every lexical error is shown: its diagnostic has a snippet, which shows the line that the error
is on and marks the first line of its lexeme. -/
theorem lexText_carets (options : LexingOptions) {content : String}
    (short : content.length + 1 < counterLimit) :
    ∃ lexing, lexText options content = .ok lexing ∧ ∀ name, ∀ error ∈ lexing.errors,
      ∃ snippet, Snippet.ofSpan? { name, content } error.span = some snippet ∧
        snippet.Shows { name, content } error ∧
        ∃ before after, error.diagnostic.render { name, content } =
          before ++ "\n" ++ snippet.format ++ "\n" ++ after := by
  obtain ⟨pieces, tail, same, divides⟩ := exists_division content.toList
  refine ⟨_, (lexText_yields options divides same.symm).eq_ok short, ?_⟩
  intro name error among
  obtain ⟨located, member, previous, found⟩ := exists_of_mem_errorsOf among
  have text : ({ name, content } : Source).text = textOf pieces tail := same.symm
  obtain ⟨snippet, shown, shows⟩ := exists_shows_of_mem_locate divides text member found
  exact ⟨snippet, shown, shows, Diagnostic.exists_render shown⟩

/-- A string behind a wide character lacks its quote, and a comment over two lines stays open;
carriage returns end the line of each. -/
theorem lexText_carets_returns :
    ∃ lexing, lexText { reportOpenComments :=
      true } "'é' \"b\r\r\n<<< <<< >>>\r\r\nend" = .ok lexing ∧
      lexing.errors.map (fun error => Snippet.ofSpan?
          { name := "t", content := "'é' \"b\r\r\n<<< <<< >>>\r\r\nend" } error.span) =
        [some ⟨"'é' \"b", 1, 5, 7⟩, some ⟨"<<< <<< >>>", 2, 1, 12⟩] ∧
      ∀ error ∈ lexing.errors, ∃ snippet : Snippet,
        snippet.Shows { name := "t", content := "'é' \"b\r\r\n<<< <<< >>>\r\r\nend" } error := by
  obtain ⟨lexing, lexed, shown⟩ :=
    @lexText_carets { reportOpenComments := true } "'é' \"b\r\r\n<<< <<< >>>\r\r\nend" (by decide)
  have found : (lexText { reportOpenComments := true } "'é' \"b\r\r\n<<< <<< >>>\r\r\nend").map
      (fun lexing => lexing.errors.map fun error => Snippet.ofSpan?
        { name := "t", content := "'é' \"b\r\r\n<<< <<< >>>\r\r\nend" } error.span) =
      .ok [some ⟨"'é' \"b", 1, 5, 7⟩, some ⟨"<<< <<< >>>", 2, 1, 12⟩] := by
    decide +kernel
  rw [lexed] at found
  refine ⟨lexing, lexed, Except.ok.inj found, ?_⟩
  intro error among
  obtain ⟨snippet, _, shows, _⟩ := shown "t" error among
  exact ⟨snippet, shows⟩

end ScriptLexer
