import ScriptLexer.Cursor
import ScriptLexer.Settings.Basic

/-!
# Failures

Everything that ends the program without success, and how it is told.
-/
namespace ScriptLexer

inductive Failure where
  | settings (error : SettingsError)
  /-- A file named on the command line cannot be read. -/
  | source (path : String) (error : FileError)
  /-- Any other file, or the input, cannot be read or written. -/
  | access (error : FileError)
  /-- The checked source has lexical errors. -/
  | lexical (sourceName : String) (count : Nat)
  | fault (fault : Fault)
  deriving DecidableEq, Repr

namespace Failure

def message : Failure → String
  | settings error => "Configuration error: " ++ error.message
  | source path error => "File operation failed: Failed to read " ++ path ++ ": " ++ error.message
  | access error => "IO error: " ++ error.message
  | lexical sourceName count => toString count ++ " lexical error(s) in " ++ sourceName
  | fault .outsideText => "a cut outside the text"
  | fault .counterOverflow => "a counter has no room left"
  | fault .stalled => "the lexer stands still"

end Failure

end ScriptLexer
