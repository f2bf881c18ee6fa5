import Mathlib.Data.List.Forall2
import ScriptLexer.Proofs.Grammar.Separator
import ScriptLexer.Proofs.OperatorSequences
import ScriptLexer.Proofs.SourceLines
import ScriptLexer.Proofs.TokenLanguages
import ScriptLexer.Report.Table

/-!
# The shape of the token table

The table of a lexing has one line for each of its parts, whatever the lexemes hold: nothing that is
shown in a line breaks it. The widths are the least that hold all cells, so the bars of all lines
stand in the same columns, and what is trimmed off a line is never part of a cell.
-/
namespace ScriptLexer

open Grammar

/-! ## Reports of errors -/

theorem ErrorCode.break_notMem_name (code : ErrorCode) : '\n' ∉ code.name.toList := by
  cases code <;> decide

theorem NumberFlaw.break_notMem_description (flaw : NumberFlaw) :
    '\n' ∉ flaw.description.toList := by
  cases flaw <;> decide

/-- Operators of which one forbids the other are listed, and none that is has a line break. -/
theorem Forbids.break_notMem {previous next : String} (forbids : Forbids previous next) :
    '\n' ∉ previous.toList ∧ '\n' ∉ next.toList := by
  have listed : ∀ sequences ∈ forbiddenSequences,
      (∀ previous ∈ sequences.1, '\n' ∉ previous.toList) ∧
        ∀ next ∈ sequences.2, '\n' ∉ next.toList := by
    decide
  obtain ⟨sequences, row, first, second⟩ := forbids
  exact ⟨(listed sequences row).1 previous first, (listed sequences row).2 next second⟩

/-- What an error shows of its lexeme has no line break. Strings and comments may have some, and
their errors do not show them. -/
theorem Cause.break_notMem_message {cause : Cause} {lexeme : String}
    (form : (Finding.error cause).Form lexeme.toList) : '\n' ∉ (cause.message lexeme).toList := by
  cases cause with
  | unrecognized c =>
    have noBreak : c ≠ '\n' := form.1.noBreak
    show '\n' ∉ ("Unrecognized token '" ++ String.singleton c ++ "'").toList
    simp [noBreak.symm]
  | openString quote =>
    have noBreak : quote ≠ '\n' := by
      rintro rfl
      exact absurd form.1 (by decide)
    show '\n' ∉ ("Unterminated string literal (missing closing " ++
      String.singleton quote ++ ")").toList
    simp [noBreak.symm]
  | number flaw =>
    have noBreak : '\n' ∉ lexeme.toList :=
      Separates.notMem_malformed (separates_of_mem (by decide)) form
    show '\n' ∉ ("Malformed number literal: " ++ flaw.description ++ " ('" ++ lexeme ++ "')").toList
    simp [flaw.break_notMem_description, noBreak]
  | illegalIdentifier =>
    have noBreak : '\n' ∉ lexeme.toList :=
      Separates.notMem_illegalIdentifier (separates_of_mem (by decide)) form
    show '\n' ∉ ("Illegal identifier '" ++ lexeme ++ "' (cannot start with digit)").toList
    simp [noBreak]
  | operatorSequence previous => exact absurd form id
  | openComment => exact absurd form id

theorem Located.break_notMem_message {options : LexingOptions} {previous : Option Token}
    {located : Located} (form : located.finding.Form located.lexeme.toList) {error : LexicalError}
    (member : error ∈ located.errors options previous) : '\n' ∉ error.message.toList := by
  unfold errors at member
  split at member
  case h_1 operator =>
    split at member
    case h_1 token clashing =>
      obtain rfl := List.mem_singleton.mp member
      have clash : clashes token.lexeme located.lexeme = true :=
        (Option.filter_eq_some_iff.mp clashing).2
      have noBreak := ((clashes_iff token.lexeme located.lexeme).mp clash).break_notMem
      show '\n' ∉ ("Invalid operator sequence: '" ++ token.lexeme ++ "' cannot be followed by '" ++
        located.lexeme ++ "'").toList
      simp [noBreak]
    case h_2 => cases member
  case h_2 => cases member
  case h_3 =>
    split at member
    · obtain rfl := List.mem_singleton.mp member
      show '\n' ∉ "Unterminated multi-line comment (missing closing >>>)".toList
      simp
    · cases member
  case h_4 cause spoiled =>
    obtain rfl := List.mem_singleton.mp member
    rw [spoiled] at form
    exact Cause.break_notMem_message form

theorem LexicalError.break_notMem_display {error : LexicalError}
    (message : '\n' ∉ error.message.toList) : '\n' ∉ error.display.toList := by
  simp [display, error.code.break_notMem_name, message, Text.break_notMem_toDigits]

namespace Table

/-! ## Cells -/

/-- The characters that a cell shows by other ones. -/
def shownOtherwise : List Char := ['\n', '\r', '\t']

theorem notMem_lexemeCell {c : Char} (among : c ∈ shownOtherwise) (lexeme : String) :
    c ∉ (lexemeCell lexeme).toList := by
  rw [lexemeCell, String.toList_ofList, List.mem_flatMap]
  rintro ⟨shown, _, member⟩
  have apart : ∀ c ∈ shownOtherwise, c ∉ ['\\', 'n'] ∧ c ∉ ['\\', 'r'] ∧ c ∉ ['\\', 't'] :=
    forall_mem_of_all (by decide)
  unfold cellChar at member
  split at member
  case h_1 => exact (apart c among).1 member
  case h_2 => exact (apart c among).2.1 member
  case h_3 => exact (apart c among).2.2 member
  case h_4 noBreak noReturn noTab =>
    obtain rfl := List.mem_singleton.mp member
    rcases (by simpa [shownOtherwise] using among : c = '\n' ∨ c = '\r' ∨ c = '\t') with
      rfl | rfl | rfl
    · exact noBreak rfl
    · exact noReturn rfl
    · exact noTab rfl

/-- The cells of a row have none of the characters that a cell shows by other ones, and the last
ends in a letter. -/
structure Row.Plain (row : Row) : Prop where
  lexeme : ∀ c ∈ shownOtherwise, c ∉ row.lexeme.toList
  token : ∀ c ∈ shownOtherwise, c ∉ row.token.toList
  category : ∀ c ∈ shownOtherwise, c ∉ row.category.toList
  letter : ∃ c, row.category.toList.getLast? = some c ∧ c.isAlpha = true

theorem plain_header : header.Plain := by
  constructor
  case letter => exact ⟨'e', rfl, by decide⟩
  all_goals exact forall_mem_of_all (by decide)

theorem notMem_kindName (kind : Token.Kind) : ∀ c ∈ shownOtherwise, c ∉ kind.name.toList := by
  cases kind <;> exact forall_mem_of_all (by decide)

theorem notMem_categoryName (category : Token.Category) :
    ∀ c ∈ shownOtherwise, c ∉ category.name.toList := by
  cases category <;> exact forall_mem_of_all (by decide)

/-- Every category has a name that ends in a letter. -/
theorem exists_lastLetter (category : Token.Category) :
    ∃ c, category.name.toList.getLast? = some c ∧ c.isAlpha = true := by
  cases category <;> exact ⟨_, rfl, by decide⟩

theorem notMem_reservedWords : ∀ word ∈ reservedWords, ∀ c ∈ shownOtherwise, c ∉ word.toList := by
  have each : ∀ word ∈ reservedWords,
      shownOtherwise.all (fun c => decide (c ∉ word.toList)) = true := by decide
  intro word reserved
  exact forall_mem_of_all (each word reserved)

/-- A lexeme that is shown as it is, is that of a keyword, and so one of a few words. -/
theorem plain_ofToken {token : Token} (language : token.kind.Language token.lexeme.toList) :
    (Row.ofToken token).Plain := by
  constructor
  case lexeme => exact fun c among => notMem_lexemeCell among token.lexeme
  case token =>
    show ∀ c ∈ shownOtherwise, c ∉ token.shownAs.toList
    unfold Token.shownAs
    split
    case h_1 keyword =>
      rw [keyword] at language
      have reserved : String.ofList token.lexeme.toList ∈ reservedWords := language
      rw [String.ofList_toList] at reserved
      exact notMem_reservedWords token.lexeme reserved
    case h_2 kind _ => exact notMem_kindName _
  case category => exact notMem_categoryName token.category
  case letter => exact exists_lastLetter token.category

/-! ## Widths -/

/-- The least width that holds all cells of a column. -/
structure IsWidth (width : Nat) (cells : List String) : Prop where
  fits : ∀ cell ∈ cells, cell.length ≤ width
  reached : ∃ cell ∈ cells, cell.length = width

theorem IsWidth.concat {width : Nat} {cells : List String} (isWidth : IsWidth width cells)
    (cell : String) : IsWidth (max width cell.length) (cells ++ [cell]) := by
  constructor
  case fits =>
    intro other member
    rcases List.mem_append.mp member with before | last
    · have fits := isWidth.fits other before
      omega
    · obtain rfl := List.mem_singleton.mp last
      omega
  case reached =>
    obtain ⟨widest, member, reached⟩ := isWidth.reached
    by_cases wider : width ≤ cell.length
    · exact ⟨cell, by simp, by omega⟩
    · exact ⟨widest, List.mem_append_left _ member, by omega⟩

/-- A column that each row widens by its own cell is as wide as its widest cell. -/
theorem isWidth_foldl (width : Widths → Nat) (cell : Row → String)
    (widens : ∀ widths row, width (widths.widen row) = max (width widths) (cell row).length)
    (widths : Widths) {cells : List String} (isWidth : IsWidth (width widths) cells)
    (rows : List Row) :
    IsWidth (width (rows.foldl Widths.widen widths)) (cells ++ rows.map cell) := by
  induction rows generalizing widths cells with
  | nil => rwa [List.map_nil, List.append_nil]
  | cons row others ih =>
    have next := isWidth.concat (cell row)
    rw [← widens] at next
    rw [List.map_cons, List.append_cons]
    exact ih _ next

/-- The widths of a table, by the cells of the header and the rows. -/
structure Widths.Fit (widths : Widths) (rows : List Row) : Prop where
  lexeme : IsWidth widths.lexeme ("Lexeme" :: rows.map Row.lexeme)
  token : IsWidth widths.token ("Token" :: rows.map Row.token)
  category : IsWidth widths.category ("Type" :: rows.map Row.category)

theorem fit_ofRows (rows : List Row) : (Widths.ofRows rows).Fit rows := by
  have alone : ∀ cell : String, IsWidth cell.length [cell] := fun cell => ⟨by simp, by simp⟩
  constructor
  case lexeme =>
    exact isWidth_foldl Widths.lexeme Row.lexeme (fun _ _ => rfl) (.ofRows []) (alone "Lexeme") rows
  case token =>
    exact isWidth_foldl Widths.token Row.token (fun _ _ => rfl) (.ofRows []) (alone "Token") rows
  case category =>
    exact isWidth_foldl Widths.category Row.category (fun _ _ => rfl) (.ofRows []) (alone "Type")
      rows

theorem Widths.Fit.holds {widths : Widths} {rows : List Row} (fit : widths.Fit rows) {row : Row}
    (member : row ∈ header :: rows) :
    row.lexeme.length ≤ widths.lexeme ∧ row.token.length ≤ widths.token := by
  have lexeme := fit.lexeme.fits row.lexeme (List.mem_map_of_mem (f := Row.lexeme) member)
  have token := fit.token.fits row.token (List.mem_map_of_mem (f := Row.token) member)
  exact ⟨lexeme, token⟩

/-! ## Lines -/

/-- Two bars of three characters cut the line at the widths of the first two columns. -/
structure Cut (line : List Char) (bar : String) (widths : Widths)
    (first second third : List Char) : Prop where
  first : line.take widths.lexeme = first
  firstBar : (line.drop widths.lexeme).take 3 = bar.toList
  second : (line.drop (widths.lexeme + 3)).take widths.token = second
  secondBar : (line.drop (widths.lexeme + 3 + widths.token)).take 3 = bar.toList
  third : line.drop (widths.lexeme + 3 + widths.token + 3) = third

theorem cut_append {bar : String} (three : bar.length = 3) {widths : Widths}
    {first second : List Char} (firstFills : first.length = widths.lexeme)
    (secondFills : second.length = widths.token) (third : List Char) :
    Cut (first ++ (bar.toList ++ (second ++ (bar.toList ++ third)))) bar
      widths first second third := by
  have bars : bar.toList.length = 3 := by rwa [String.length_toList]
  have behindFirst :
      (first ++ (bar.toList ++ (second ++ (bar.toList ++ third)))).drop widths.lexeme =
        bar.toList ++ (second ++ (bar.toList ++ third)) := List.drop_left' firstFills
  have behindBar :
      (first ++ (bar.toList ++ (second ++ (bar.toList ++ third)))).drop (widths.lexeme + 3) =
        second ++ (bar.toList ++ third) := by
    rw [← List.drop_drop, behindFirst, List.drop_left' bars]
  have behindSecond : (first ++ (bar.toList ++ (second ++ (bar.toList ++ third)))).drop
      (widths.lexeme + 3 + widths.token) = bar.toList ++ third := by
    rw [← List.drop_drop, behindBar, List.drop_left' secondFills]
  constructor
  case first => exact List.take_left' firstFills
  case firstBar => rw [behindFirst, List.take_left' bars]
  case second => rw [behindBar, List.take_left' secondFills]
  case secondBar => rw [behindSecond, List.take_left' bars]
  case third => rw [← List.drop_drop, behindSecond, List.drop_left' bars]

/-- The line shows the cells of a row, the first two with blanks behind them and the last in full.
It ends in a letter, so nothing that could be trimmed stands at its end. -/
structure Shows (line : List Char) (widths : Widths) (row : Row) : Prop where
  cut : ∃ firstBlanks secondBlanks,
    Cut line " | " widths (row.lexeme.toList ++ List.replicate firstBlanks ' ')
      (row.token.toList ++ List.replicate secondBlanks ' ') row.category.toList
  letter : ∃ c, line.getLast? = some c ∧ c.isAlpha = true

/-- Blanks behind a letter are trimmed off, and nothing else. -/
theorem trimEnd_append {line : List Char} {c : Char} (last : line.getLast? = some c)
    (letter : c.isAlpha = true) (blanks : Nat) :
    trimEnd (line ++ List.replicate blanks ' ') = line := by
  have stops : Stops Text.Property.whiteSpace.holds line.reverse.head? := by
    rw [List.head?_reverse, last, Stops.some_iff]
    exact Text.Property.whiteSpace_holds_of_isAlpha letter
  have all : ∀ d ∈ List.replicate blanks ' ', Text.Property.whiteSpace.holds d = true := by
    intro d member
    rw [(List.mem_replicate.mp member).2]
    rfl
  rw [trimEnd, List.reverse_append, List.reverse_replicate, stops.dropWhile_append all,
    List.reverse_reverse]

/-- The cells of a row in their fields, the last one without padding. -/
def fields (widths : Widths) (row : Row) : List Char :=
  pad widths.lexeme row.lexeme ++ (" | ".toList ++ (pad widths.token row.token ++
    (" | ".toList ++ row.category.toList)))

theorem exists_lastLetter_fields {row : Row} (plain : row.Plain) (widths : Widths) :
    ∃ c, (fields widths row).getLast? = some c ∧ c.isAlpha = true := by
  obtain ⟨c, last, isLetter⟩ := plain.letter
  refine ⟨c, ?_, isLetter⟩
  simp only [fields, List.getLast?_append, last, Option.some_or]

/-- Only the padding of the last cell is trimmed off a line. -/
theorem renderRow_eq {row : Row} (plain : row.Plain) (widths : Widths) :
    renderRow widths row = fields widths row := by
  obtain ⟨c, last, letter⟩ := exists_lastLetter_fields plain widths
  rw [← trimEnd_append last letter (widths.category - row.category.length)]
  simp [renderRow, fields, pad]

theorem length_pad {width : Nat} {cell : String} (fits : cell.length ≤ width) :
    (pad width cell).length = width := by
  rw [pad, List.length_append, List.length_replicate, String.length_toList]
  omega

theorem shows_renderRow {widths : Widths} {row : Row} (lexeme : row.lexeme.length ≤ widths.lexeme)
    (token : row.token.length ≤ widths.token) (plain : row.Plain) :
    Shows (renderRow widths row) widths row := by
  rw [renderRow_eq plain]
  constructor
  case cut =>
    exact ⟨_, _, cut_append rfl (length_pad lexeme) (length_pad token) row.category.toList⟩
  case letter => exact exists_lastLetter_fields plain widths

theorem notMem_pad {c : Char} (among : c ∈ shownOtherwise) {cell : String}
    (unseen : c ∉ cell.toList) (width : Nat) : c ∉ pad width cell := by
  have noBlank : ∀ c ∈ shownOtherwise, c ≠ ' ' := forall_mem_of_all (by decide)
  simp [pad, unseen, noBlank c among]

theorem notMem_renderRow {c : Char} (among : c ∈ shownOtherwise) {row : Row} (plain : row.Plain)
    (widths : Widths) : c ∉ renderRow widths row := by
  have noBar : ∀ c ∈ shownOtherwise, c ∉ " | ".toList := forall_mem_of_all (by decide)
  rw [renderRow_eq plain, fields]
  simp only [List.mem_append, not_or]
  exact ⟨notMem_pad among (plain.lexeme c among) _, noBar c among,
    notMem_pad among (plain.token c among) _, noBar c among, plain.category c among⟩

theorem cut_renderRule (widths : Widths) :
    Cut (renderRule widths) "-+-" widths (List.replicate widths.lexeme '-')
      (List.replicate widths.token '-') (List.replicate widths.category '-') := by
  have rule : renderRule widths = List.replicate widths.lexeme '-' ++ ("-+-".toList ++
      (List.replicate widths.token '-' ++
        ("-+-".toList ++ List.replicate widths.category '-'))) := by
    simp [renderRule]
  rw [rule]
  exact cut_append rfl List.length_replicate List.length_replicate _

theorem break_notMem_renderRule (widths : Widths) : '\n' ∉ renderRule widths := by
  simp [renderRule]

/-! ## The whole table -/

/-- A text of these lines is the table of a lexing. -/
structure IsTable (text : String) (lexing : Lexing) (widths : Widths) (top rule : List Char)
    (tokenLines report : List (List Char)) : Prop where
  ended : ∃ lines, text = lines ++ "\n"
  split : text.toList.splitOn '\n' = top :: rule :: (tokenLines ++ [] :: (report ++ [[]]))
  fit : widths.Fit (lexing.tokens.map Row.ofToken)
  header : Shows top widths { lexeme := "Lexeme", token := "Token", category := "Type" }
  rule : Cut rule "-+-" widths (List.replicate widths.lexeme '-') (List.replicate widths.token '-')
    (List.replicate widths.category '-')
  tokens : List.Forall₂ (fun token line => Shows line widths
    { lexeme := lexemeCell token.lexeme, token := token.shownAs, category := token.category.name })
    lexing.tokens tokenLines
  controls : ∀ line ∈ tokenLines, '\t' ∉ line ∧ '\r' ∉ line
  noErrors : lexing.errors = [] → report = ["No errors.".toList]
  errors : lexing.errors ≠ [] →
    report = ("Errors (" ++ toString lexing.errors.length ++ "):").toList ::
      lexing.errors.map fun error => error.display.toList

theorem toList_joinLines (lines : List String) :
    (String.join (lines.map (· ++ "\n"))).toList = Text.endedLines (lines.map String.toList) := by
  simp [String.toList_join, Text.endedLines, List.flatMap_map]

theorem exists_joinLines {lines : List String} (several : lines ≠ []) :
    ∃ front, String.join (lines.map (· ++ "\n")) = front ++ "\n" := by
  obtain ⟨before, last, rfl⟩ := (List.eq_nil_or_concat lines).resolve_left several
  refine ⟨String.join (before.map (· ++ "\n")) ++ last, ?_⟩
  apply String.toList_injective
  simp [String.toList_join]

theorem break_notMem_errorReport {errors : List LexicalError}
    (messages : ∀ error ∈ errors, '\n' ∉ error.message.toList) :
    ∀ line ∈ errorReport errors, '\n' ∉ line.toList := by
  unfold errorReport
  split
  case h_1 => simp
  case h_2 =>
    intro line member
    rcases List.mem_cons.mp member with rfl | display
    · simp [Text.break_notMem_toDigits]
    · obtain ⟨error, among, rfl⟩ := List.mem_map.mp display
      exact LexicalError.break_notMem_display (messages error among)

theorem errorReport_of_ne_nil {errors : List LexicalError} (several : errors ≠ []) :
    errorReport errors =
      ("Errors (" ++ toString errors.length ++ "):") :: errors.map LexicalError.display := by
  unfold errorReport
  split
  case h_1 => exact absurd rfl several
  case h_2 => rfl

end Table

namespace Lexing

variable {lexing : Lexing}

def tableRows (lexing : Lexing) : List Table.Row := lexing.tokens.map Table.Row.ofToken

def tableWidths (lexing : Lexing) : Table.Widths := .ofRows lexing.tableRows

theorem map_tableLines (lexing : Lexing) : lexing.tableLines.map String.toList =
    Table.renderRow lexing.tableWidths Table.header :: Table.renderRule lexing.tableWidths ::
      (lexing.tableRows.map (Table.renderRow lexing.tableWidths) ++
        [] :: (Table.errorReport lexing.errors).map String.toList) := by
  simp [tableLines, tableWidths, tableRows]

/-- Where the rows are plain and no message has a line break, the table splits into its own
lines. -/
theorem splitOn_toTable (plain : ∀ row ∈ lexing.tableRows, row.Plain)
    (messages : ∀ error ∈ lexing.errors, '\n' ∉ error.message.toList) :
    lexing.toTable.toList.splitOn '\n' = lexing.tableLines.map String.toList ++ [[]] := by
  have oneLine : ∀ line ∈ lexing.tableLines.map String.toList, '\n' ∉ line := by
    rw [map_tableLines]
    intro line member
    simp only [List.mem_cons, List.mem_append, List.mem_map] at member
    rcases member with rfl | rfl | ⟨row, among, rfl⟩ | rfl | ⟨report, among, rfl⟩
    · exact Table.notMem_renderRow (by decide) Table.plain_header _
    · exact Table.break_notMem_renderRule _
    · exact Table.notMem_renderRow (by decide) (plain row among) _
    · exact List.not_mem_nil
    · exact Table.break_notMem_errorReport messages report among
  rw [toTable, Table.toList_joinLines, Text.splitOn_endedLines oneLine]

/-- Where the rows are plain and no message has a line break, the table keeps its shape. -/
theorem exists_isTable (plain : ∀ row ∈ lexing.tableRows, row.Plain)
    (messages : ∀ error ∈ lexing.errors, '\n' ∉ error.message.toList) :
    ∃ widths top rule tokenLines report,
      Table.IsTable lexing.toTable lexing widths top rule tokenLines report := by
  have fit := Table.fit_ofRows lexing.tableRows
  have shows : ∀ row ∈ Table.header :: lexing.tableRows, row.Plain →
      Table.Shows (Table.renderRow lexing.tableWidths row) lexing.tableWidths row := by
    intro row member plain
    exact Table.shows_renderRow (fit.holds member).1 (fit.holds member).2 plain
  refine ⟨lexing.tableWidths, Table.renderRow lexing.tableWidths Table.header,
    Table.renderRule lexing.tableWidths, lexing.tableRows.map (Table.renderRow lexing.tableWidths),
    (Table.errorReport lexing.errors).map String.toList, ?_⟩
  constructor
  case ended => exact Table.exists_joinLines (by simp [tableLines])
  case split =>
    rw [splitOn_toTable plain messages, map_tableLines]
    simp
  case fit => exact fit
  case header => exact shows Table.header List.mem_cons_self Table.plain_header
  case rule => exact Table.cut_renderRule lexing.tableWidths
  case tokens =>
    rw [List.forall₂_map_right_iff, tableRows, List.forall₂_map_right_iff, List.forall₂_same]
    intro token member
    have row := List.mem_map_of_mem (f := Table.Row.ofToken) member
    exact shows (Table.Row.ofToken token) (List.mem_cons_of_mem _ row) (plain _ row)
  case controls =>
    intro line member
    obtain ⟨row, among, rfl⟩ := List.mem_map.mp member
    exact ⟨Table.notMem_renderRow (by decide) (plain row among) _,
      Table.notMem_renderRow (by decide) (plain row among) _⟩
  case noErrors =>
    intro clean
    rw [clean]
    rfl
  case errors =>
    intro several
    rw [Table.errorReport_of_ne_nil several, List.map_cons, List.map_map]
    rfl

end Lexing

/-- The table of a text keeps its shape, whatever the text is. Only a counter that overflows keeps a
text from a table. -/
theorem lexText_table (options : LexingOptions) (source : String) :
    (∃ lexing, lexText options source = .ok lexing ∧ ∃ widths top rule tokenLines report,
      Table.IsTable lexing.toTable lexing widths top rule tokenLines report) ∨
    (lexText options source = .error .counterOverflow ∧ counterLimit ≤ source.length + 1) := by
  obtain ⟨pieces, tail, same, divides⟩ := exists_division source.toList
  rcases lexText_yields options divides same.symm with lexed | overflows
  · left
    refine ⟨_, lexed, Lexing.exists_isTable ?_ ?_⟩
    · intro row member
      obtain ⟨token, among, rfl⟩ := List.mem_map.mp member
      exact Table.plain_ofToken (language_of_mem_tokensOf divides among)
    · intro error member
      obtain ⟨located, among, previous, found⟩ := exists_of_mem_errorsOf member
      exact Located.break_notMem_message (divides.form_of_mem_locate located among) found
  · exact .inr overflows

end ScriptLexer
