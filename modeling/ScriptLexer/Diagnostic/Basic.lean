import ScriptLexer.Diagnostic.Code
import ScriptLexer.Diagnostic.Snippet
import ScriptLexer.LexicalError

/-!
# Diagnostics

A diagnostic is a message with a severity and, as far as they are known, a code, a place and advice.
Rendered against a source it names the place, shows the line if the source has it, and ends with the
advice. Diagnostics are collected in the order in which they are found.
-/
namespace ScriptLexer

inductive Severity where
  | error
  | warning
  deriving DecidableEq, Repr

def Severity.name : Severity → String
  | error => "error"
  | warning => "warning"

structure Diagnostic where
  severity : Severity := .error
  message : String
  span : Span := .unknown
  code : Option Diagnostic.Code := none
  helps : List String := []
  deriving DecidableEq, Repr

namespace Diagnostic

def isError (diagnostic : Diagnostic) : Bool := diagnostic.severity == .error

/-- Severity, code if there is one, and message. -/
def display (diagnostic : Diagnostic) : String :=
  match diagnostic.code with
  | some code =>
    diagnostic.severity.name ++ "[" ++ code.display ++ "]: " ++ diagnostic.message
  | none => diagnostic.severity.name ++ ": " ++ diagnostic.message

/-- The whole report on a source, each line ended by a line break. -/
def render (source : Source) (diagnostic : Diagnostic) : String :=
  let place := " --> " ++ source.name ++ ":" ++ toString diagnostic.span.line ++ ":" ++
    toString diagnostic.span.column ++ "\n"
  let snippet := match Snippet.ofSpan? source diagnostic.span with
    | some snippet => snippet.format ++ "\n"
    | none => ""
  let helps := diagnostic.helps.map fun help => "  = help: " ++ help ++ "\n"
  diagnostic.display ++ "\n" ++ place ++ snippet ++ String.join helps

end Diagnostic

/-- The code under which a lexical error is reported. -/
def ErrorCode.diagnosticCode (code : ErrorCode) : Diagnostic.Code :=
  { letters := "E", number := code.number }

/-- The diagnostic of a lexical error, with the advice that belongs to its code. -/
def LexicalError.diagnostic (error : LexicalError) : Diagnostic :=
  { severity := .error
    message := error.message
    span := error.span
    code := some error.code.diagnosticCode
    helps := [error.code.help] }

/-- Diagnostics in the order in which they were found. -/
structure DiagnosticLog where
  entries : List Diagnostic := []
  deriving DecidableEq, Repr

namespace DiagnosticLog

def add (log : DiagnosticLog) (diagnostic : Diagnostic) : DiagnosticLog :=
  { entries := log.entries ++ [diagnostic] }

def addAll (log : DiagnosticLog) (diagnostics : List Diagnostic) : DiagnosticLog :=
  { entries := log.entries ++ diagnostics }

/-- Warnings do not count. -/
def errorCount (log : DiagnosticLog) : Nat := log.entries.countP Diagnostic.isError

def hasErrors (log : DiagnosticLog) : Bool := log.entries.any Diagnostic.isError

end DiagnosticLog

end ScriptLexer
