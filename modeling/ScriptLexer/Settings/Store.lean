import ScriptLexer.Failure

/-!
# Settings in files

Settings are loaded from a file that is named, or from the first that is there of those where they
are looked for, and saved with the directories around them.
-/
namespace ScriptLexer

namespace Settings

variable {m : Type → Type} [Monad m]

/-- The settings in a file, which has to be there. -/
def load (host : Host m) (path : String) : ExceptT Failure m Settings := do
  if !(← host.fileExists path) then
    throw (.settings (.missing path))
  match ← host.readText path with
  | .error error => throw (.access error)
  | .ok text =>
    match parse text with
    | .ok settings => return settings
    | .error error => throw (.settings error)

/-- The directory for the settings of all programs: one that is named by an absolute path, or else
the usual one at home. -/
def directory (home named : Option String) : Option String :=
  (named.filter (·.startsWith "/")).or (home.map (· ++ "/.config"))

/-- Where settings are looked for, the first choice first: the working directory, the home directory
and the directory for the settings of all programs. -/
def searchPaths (program fileName : String) (home configHome : Option String) : List String :=
  let path := program ++ "/" ++ fileName
  fileName :: (home.map (· ++ "/.config/" ++ path)).toList ++
    (configHome.map (· ++ "/" ++ path)).toList

/-- The settings in the first of the files that is there, valid or not; the defaults if none is. -/
def loadFirst (host : Host m) : List String → ExceptT Failure m Settings
  | [] => return {}
  | path :: others => do
    if ← host.fileExists path then load host path else loadFirst host others

/-- The directory that a file path leads into. -/
def parentOf (path : String) : String :=
  "/".intercalate (path.splitToList (· == '/')).dropLast

/-- Writes the settings to a file and makes the directories that it needs. -/
def save (host : Host m) (path : String) (settings : Settings) : ExceptT Failure m Unit := do
  if let .error error ← host.makeDirectories (parentOf path) then
    throw (.access error)
  if let .error error ← host.writeFile path settings.render then
    throw (.access error)

end Settings

end ScriptLexer
