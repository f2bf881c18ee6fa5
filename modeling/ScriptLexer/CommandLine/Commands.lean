import ScriptLexer.Failure
import ScriptLexer.Report.Document
import ScriptLexer.Report.Inspection
import ScriptLexer.Report.Table

/-!
# Commands

One command shows the tokens of a source, the other inspects it for errors. Both read the source
from a file or from the input and note in the log what they have found.
-/
namespace ScriptLexer.CommandLine

/-- A note in the log: what was done, and what with. -/
structure LogEntry where
  message : String
  fields : List (String × String)
  deriving DecidableEq, Repr

namespace LogEntry

private def styled (style text : String) : String := "\x1b[" ++ style ++ "m" ++ text ++ "\x1b[0m"

private def renderField (color : Bool) (field : String × String) : String :=
  if color then " " ++ styled "3" field.1 ++ styled "2" "=" ++ field.2
  else " " ++ field.1 ++ "=" ++ field.2

/-- The line of an entry, with terminal colors or without. -/
def render (color : Bool) (entry : LogEntry) : String :=
  (if color then styled "34" "DEBUG" else "DEBUG") ++ " " ++ entry.message ++
    String.join (entry.fields.map (renderField color))

end LogEntry

/-- What a command finds, and what it notes on the way. -/
structure Logged (α : Type) where
  value : α
  log : List LogEntry

/-- The name under which the input is reported. -/
def inputName : String := "<stdin>"

variable {m : Type → Type} [Monad m]

/-- A lone dash stands for the input, also with slashes behind it. -/
def isInput (file : String) : Bool :=
  match file.splitToList (· == '/') with
  | "-" :: rest => rest.all fun name => name == "" || name == "."
  | _ => false

/-- The source of a command: a file, or the input where none is given. -/
def fetchSource (host : Host m) (file : Option String) : ExceptT Failure m Source := do
  match file.filter (!isInput ·) with
  | some path =>
    match ← host.readText path with
    | .ok content => return { name := path, content }
    | .error error => throw (.source path error)
  | none =>
    match ← host.readInputText with
    | .ok content => return { name := inputName, content }
    | .error error => throw (.access error)

private def count {α : Type} (xs : List α) : String := toString xs.length

/-- The tokens and errors of a source, and the note on them. -/
def lexSource (options : LexingOptions) (source : Source) : Except Failure (Logged Lexing) :=
  match lexText options source.content with
  | .error fault => .error (.fault fault)
  | .ok lexing => .ok {
      value := lexing
      log := [{
        message := "tokenized source"
        fields := [
          ("bytes", toString source.content.utf8ByteSize),
          ("tokens", count lexing.tokens),
          ("errors", count lexing.errors)] }] }

/-- The tokens of a source in a report. -/
def showTokens (host : Host m) (file : Option String) (format : ReportFormat)
    (options : LexingOptions) : ExceptT Failure m (Logged String) := do
  let source ← fetchSource host file
  let { value := lexing, log } ← lexSource options source
  let entry : LogEntry := {
    message := "lexed source"
    fields := [
      ("source", source.name),
      ("tokens", count lexing.tokens),
      ("errors", count lexing.errors)] }
  let report := match format with
    | .table => lexing.toTable
    | .json => lexing.toDocument
  return { value := report, log := log ++ [entry] }

/-- The inspection of a source. -/
def inspect (host : Host m) (file : Option String) (options : LexingOptions) :
    ExceptT Failure m (Logged Inspection) := do
  let source ← fetchSource host file
  let { value := lexing, log } ← lexSource options source
  let entry : LogEntry := {
    message := "checked source"
    fields := [("source", source.name), ("errors", count lexing.errors)] }
  return { value := Inspection.ofErrors source lexing.errors, log := log ++ [entry] }

end ScriptLexer.CommandLine
