import ScriptLexer.Files.Host
import ScriptLexer.Lexing
import ScriptLexer.Toml.Document

/-!
# Settings

Settings are read from a TOML document. What it leaves out keeps its default, and what it says
beyond the settings is ignored; a value of the wrong type is an error. Settings are written with
every value spelled out, so reading them back gives them again.
-/
namespace ScriptLexer

/-- How tokens are reported. -/
inductive ReportFormat where
  | table
  | json
  deriving DecidableEq, Repr

namespace ReportFormat

def name : ReportFormat → String
  | table => "table"
  | json => "json"

/-- The format of a given name; case matters. -/
def ofName? (name : String) : Option ReportFormat :=
  [table, json].find? fun format => format.name == name

end ReportFormat

structure OutputSettings where
  format : ReportFormat := .table
  color : Bool := true
  deriving DecidableEq, Repr

structure LexerSettings where
  reportOpenComments : Bool := false
  deriving DecidableEq, Repr

structure Settings where
  verbose : Bool := false
  output : OutputSettings := {}
  lexer : LexerSettings := {}
  deriving DecidableEq, Repr

/-- Why settings cannot be used. -/
inductive SettingsError where
  | missing (path : String)
  | notToml
  | badValue (key : String)
  deriving DecidableEq, Repr

def SettingsError.message : SettingsError → String
  | missing path => "Configuration file not found: " ++ path
  | notToml => "Failed to parse configuration: not a TOML document"
  | badValue key => "Failed to parse configuration: bad value of '" ++ key ++ "'"

/-- How the lexer runs when open comments are also asked for by a flag. -/
def LexerSettings.options (settings : LexerSettings) (strict : Bool) : LexingOptions :=
  { reportOpenComments := strict || settings.reportOpenComments }

namespace Settings

open Toml (Value)

/-- The members of a group of settings, by their place in the group and their name. -/
abbrev Members := Nat → String → Option Value

/-- A group is given by name as a table, or by place as an array; a date or a time is a group that
leaves every setting out. -/
def members? : Value → Option Members
  | .table entries => some fun _ name => entries.lookup name
  | .array items => some fun place _ => items[place]?
  | .dateTime _ => some fun _ _ => none
  | _ => none

def readBoolean? : Value → Option Bool
  | .boolean value => some value
  | _ => none

/-- A format is given by its name, alone or as the only key of a table that holds something
empty. -/
def readFormat? : Value → Option ReportFormat
  | .string name => ReportFormat.ofName? name
  | .table [(name, .table [])] => ReportFormat.ofName? name
  | .table [(name, .array [])] => ReportFormat.ofName? name
  | _ => none

/-- Reads one member, which may be left out. -/
def member {α : Type} (read? : Value → Option α) (default : α) (members : Members) (place : Nat)
    (name : String) : Except SettingsError α :=
  match members place name with
  | none => .ok default
  | some value =>
    match read? value with
    | some read => .ok read
    | none => .error (.badValue name)

/-- Reads one group, which may be left out. -/
def group {α : Type} (read : Members → Except SettingsError α) (default : α) (members : Members)
    (place : Nat) (name : String) : Except SettingsError α :=
  match members place name with
  | none => .ok default
  | some value =>
    match members? value with
    | some members => read members
    | none => .error (.badValue name)

def readOutput (members : Members) : Except SettingsError OutputSettings := do
  return {
    format := ← member readFormat? .table members 0 "format"
    color := ← member readBoolean? true members 1 "color" }

def readLexer (members : Members) : Except SettingsError LexerSettings := do
  return {
    reportOpenComments := ← member readBoolean? false members 0 "report_unterminated_comments" }

/-- The settings that a document says. -/
def ofToml (table : Toml.Table) : Except SettingsError Settings := do
  let members : Members := fun _ name => table.lookup name
  return {
    verbose := ← member readBoolean? false members 0 "verbose"
    output := ← group readOutput {} members 1 "output"
    lexer := ← group readLexer {} members 2 "lexer" }

def parse (text : String) : Except SettingsError Settings :=
  match Toml.parse? text.toList with
  | some table => ofToml table
  | none => .error .notToml

/-- The settings as a document with every value spelled out. -/
def render (settings : Settings) : String :=
  "verbose = " ++ toString settings.verbose ++
    "\n\n[output]\nformat = \"" ++ settings.output.format.name ++
    "\"\ncolor = " ++ toString settings.output.color ++
    "\n\n[lexer]\nreport_unterminated_comments = " ++
    toString settings.lexer.reportOpenComments ++ "\n"

end Settings

end ScriptLexer
