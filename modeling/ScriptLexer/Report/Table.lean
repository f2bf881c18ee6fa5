import ScriptLexer.Lexing
import ScriptLexer.Text.Property.WhiteSpace

/-!
# Token table

The tokens of a text as a table of three columns, and its errors below. A column is as wide as its
widest cell, counted in characters, and a lexeme is shown on one line whatever it holds.
-/
namespace ScriptLexer

/-- How a character of a lexeme is shown in a cell. -/
def cellChar (c : Char) : List Char :=
  match c with
  | '\n' => ['\\', 'n']
  | '\r' => ['\\', 'r']
  | '\t' => ['\\', 't']
  | c => [c]

/-- A lexeme without line breaks, carriage returns and tabs. -/
def lexemeCell (lexeme : String) : String :=
  String.ofList (lexeme.toList.flatMap cellChar)

namespace Table

/-- The cells of one line. -/
structure Row where
  lexeme : String
  token : String
  category : String
  deriving DecidableEq, Repr

/-- How many characters each column takes. -/
structure Widths where
  lexeme : Nat
  token : Nat
  category : Nat
  deriving DecidableEq, Repr

def header : Row := { lexeme := "Lexeme", token := "Token", category := "Type" }

def Row.ofToken (token : Token) : Row :=
  { lexeme := lexemeCell token.lexeme
    token := token.shownAs
    category := token.category.name }

/-- Makes room for one more row. -/
def Widths.widen (widths : Widths) (row : Row) : Widths :=
  { lexeme := max widths.lexeme row.lexeme.length
    token := max widths.token row.token.length
    category := max widths.category row.category.length }

/-- Wide enough for the header and all rows. -/
def Widths.ofRows (rows : List Row) : Widths :=
  rows.foldl Widths.widen
    { lexeme := header.lexeme.length
      token := header.token.length
      category := header.category.length }

/-- A cell with blanks up to its column's width. -/
def pad (width : Nat) (cell : String) : List Char :=
  cell.toList ++ List.replicate (width - cell.length) ' '

/-- A line without the white space at its end. -/
def trimEnd (line : List Char) : List Char :=
  (line.reverse.dropWhile Text.Property.whiteSpace.holds).reverse

/-- A row as one line. The padding of the last cell is not written. -/
def renderRow (widths : Widths) (row : Row) : List Char :=
  trimEnd (pad widths.lexeme row.lexeme ++ [' ', '|', ' '] ++ pad widths.token row.token ++
    [' ', '|', ' '] ++ pad widths.category row.category)

/-- The line between the header and the rows. -/
def renderRule (widths : Widths) : List Char :=
  List.replicate widths.lexeme '-' ++ ['-', '+', '-'] ++ List.replicate widths.token '-' ++
    ['-', '+', '-'] ++ List.replicate widths.category '-'

/-- What the table says about errors. -/
def errorReport (errors : List LexicalError) : List String :=
  match errors with
  | [] => ["No errors."]
  | errors => ("Errors (" ++ toString errors.length ++ "):") :: errors.map LexicalError.display

end Table

namespace Lexing

/-- The lines of the table: header, rule, one per token, an empty one, and the errors. -/
def tableLines (lexing : Lexing) : List String :=
  let rows := lexing.tokens.map Table.Row.ofToken
  let widths := Table.Widths.ofRows rows
  let renderRow := fun row => String.ofList (Table.renderRow widths row)
  renderRow Table.header :: String.ofList (Table.renderRule widths) ::
    rows.map renderRow ++ "" :: Table.errorReport lexing.errors

/-- The table as a text, every line ended by a line break. -/
def toTable (lexing : Lexing) : String :=
  String.join (lexing.tableLines.map (· ++ "\n"))

end Lexing

end ScriptLexer
