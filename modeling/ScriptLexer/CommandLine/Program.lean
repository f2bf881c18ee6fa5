import ScriptLexer.CommandLine.Arguments
import ScriptLexer.CommandLine.Commands
import ScriptLexer.Settings.Store

/-!
# The program

A run of the program: arguments, settings, one command, and what is left on the output, on the error
output and in the log. The exit code is 0 for success, 1 for a failure and 2 for arguments that do
not fit; the log is kept only by a verbose run, and then also of a check that fails.
-/
namespace ScriptLexer.CommandLine

def programName : String := "parleyt"

def programVersion : String := "0.1.0"

def settingsFileName : String := "parleyt.toml"

namespace Environment

def verboseVariable : String := "PARLEYT_VERBOSE"

def noColorVariable : String := "PARLEYT_NO_COLOR"

def configVariable : String := "PARLEYT_CONFIG"

def homeVariable : String := "HOME"

def configHomeVariable : String := "XDG_CONFIG_HOME"

/-- What a set of variables says in place of options. -/
def ofVariables (get? : String → Option String) : Environment :=
  { verbose := get? verboseVariable
    noColor := get? noColorVariable
    config := get? configVariable }

end Environment

/-- The line that names the version of the program or of one of its commands. -/
def versionLine (level : Level) : String :=
  let name := match level with
    | some command => programName ++ "-" ++ command.name
    | none => programName
  name ++ " " ++ programVersion ++ "\n"

/-- What a run leaves behind. -/
structure Outcome where
  code : Nat := 0
  log : List String := []
  errorOutput : String := ""
  output : String := ""
  deriving DecidableEq, Repr

namespace Outcome

/-- Ends an outcome in failure. -/
def fail (outcome : Outcome) (failure : Failure) : Outcome :=
  { outcome with
    code := 1
    errorOutput := outcome.errorOutput ++ "error: " ++ failure.message ++ "\n" }

/-- The outcome of an inspection: a failure if it has found errors. -/
def ofInspection (inspection : Inspection) : Outcome :=
  match inspection.counts with
  | [] => { output := inspection.summary ++ "\n" }
  | _ =>
    Outcome.fail { errorOutput := inspection.rendered ++ inspection.summary ++ "\n" }
      (.lexical inspection.sourceName inspection.errorCount)

end Outcome

variable {m : Type → Type} [Monad m]

/-- Runs a command under settings. -/
def runCommand (host : Host m) (settings : Settings) :
    Command → ExceptT Failure m (Logged Outcome)
  | .tokens file format strict => do
    let format := format.getD settings.output.format
    let shown ← showTokens host file format (settings.lexer.options strict)
    return { value := { output := shown.value }, log := shown.log }
  | .check file strict => do
    let inspected ← inspect host file (settings.lexer.options strict)
    return { value := .ofInspection inspected.value, log := inspected.log }

/-- Loads the settings and runs the command that is asked for. -/
def runInvocation (host : Host m) (searchPaths : List String) (invocation : Invocation) :
    ExceptT Failure m Outcome := do
  let settings ← match invocation.config with
    | some path => Settings.load host path
    | none => Settings.loadFirst host searchPaths
  let color := !invocation.noColor && settings.output.color
  let { value := outcome, log } ← runCommand host settings invocation.command
  if invocation.verbose || settings.verbose then
    return { outcome with log := log.map (LogEntry.render color) }
  else
    return outcome

/-- Runs the program; none where the arguments do not fit. -/
def run (host : Host m) (searchPaths : List String) (environment : Environment)
    (arguments : List String) : m (Option Outcome) := do
  match readArguments environment arguments with
  | .error .usage => return none
  | .error (.version level) => return some { output := versionLine level }
  | .ok invocation =>
    match ← (runInvocation host searchPaths invocation).run with
    | .ok outcome => return some outcome
    | .error failure => return some (Outcome.fail {} failure)

end ScriptLexer.CommandLine
