import ScriptLexer.CommandLine.Program

/-!
# Entry point

Runs the program on the real system.
-/
namespace ScriptLexer

/-- What a system error says in terms of files. -/
def FileError.ofSystem (error : IO.Error) : FileError :=
  match error with
  | .noFileOrDirectory .. => .notFound
  | .alreadyExists .. => .alreadyExists
  | .inappropriateType _ code _ => if code = 21 then .isADirectory else .notADirectory
  | error => .other (toString error)

private def attempt {α : Type} (action : IO α) : IO (Except FileError α) := do
  try
    return .ok (← action)
  catch error =>
    return .error (.ofSystem error)

/-- The files and the input of the process. -/
def systemHost : Host IO where
  readFile path := attempt (IO.FS.readBinFile path)
  fileExists path := do
    return (← attempt (IO.FS.Handle.mk path .read)).isOk
  writeFile path text := attempt (IO.FS.writeFile path text)
  makeDirectories path := attempt (IO.FS.createDirAll path)
  readInput := attempt do (← IO.getStdin).readBinToEnd

end ScriptLexer

open ScriptLexer CommandLine in
def main (arguments : List String) : IO UInt32 := do
  let home := (← IO.getEnv Environment.homeVariable).filter (· != "")
  let named ← IO.getEnv Environment.configHomeVariable
  let searchPaths :=
    Settings.searchPaths programName settingsFileName home (Settings.directory home named)
  let environment : Environment := {
    verbose := ← IO.getEnv Environment.verboseVariable
    noColor := ← IO.getEnv Environment.noColorVariable
    config := ← IO.getEnv Environment.configVariable }
  match ← CommandLine.run systemHost searchPaths environment arguments with
  | none =>
    IO.eprintln (programName ++ ": the arguments do not fit")
    return 2
  | some outcome =>
    outcome.log.forM IO.eprintln
    IO.eprint outcome.errorOutput
    IO.print outcome.output
    return outcome.code.toUInt32
