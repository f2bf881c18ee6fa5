/-!
# Files and input

What the program needs from its surroundings: files named by paths, and one input stream. A host may
be the real system or a tree of files in memory; both fail in the same ways and are asked for text,
which is valid UTF-8 or an error.
-/
namespace ScriptLexer

inductive FileError where
  | notFound
  | alreadyExists
  | notADirectory
  | isADirectory
  | nameTooLong
  | nulInPath
  | invalidText
  /-- Any other refusal, in the words of the system. -/
  | other (description : String)
  deriving DecidableEq, Repr

def FileError.message : FileError → String
  | notFound => "No such file or directory (os error 2)"
  | alreadyExists => "File exists (os error 17)"
  | notADirectory => "Not a directory (os error 20)"
  | isADirectory => "Is a directory (os error 21)"
  | nameTooLong => "File name too long (os error 36)"
  | nulInPath => "file name contained an unexpected NUL byte"
  | invalidText => "stream did not contain valid UTF-8"
  | other description => description

/-- The text of a sequence of bytes. -/
def decodeText (bytes : ByteArray) : Except FileError String :=
  match String.fromUTF8? bytes with
  | some text => .ok text
  | none => .error .invalidText

/-- Access to files and to the input stream. -/
structure Host (m : Type → Type) where
  readFile : String → m (Except FileError ByteArray)
  fileExists : String → m Bool
  writeFile : String → String → m (Except FileError Unit)
  /-- Makes a directory and the ones around it, as far as they are missing. -/
  makeDirectories : String → m (Except FileError Unit)
  readInput : m (Except FileError ByteArray)

namespace Host

variable {m : Type → Type} [Monad m]

/-- The text of a file. -/
def readText (host : Host m) (path : String) : m (Except FileError String) := do
  return (← host.readFile path).bind decodeText

/-- The text of the whole input. -/
def readInputText (host : Host m) : m (Except FileError String) := do
  return (← host.readInput).bind decodeText

end Host

end ScriptLexer
