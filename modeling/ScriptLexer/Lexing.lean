import ScriptLexer.Lexeme.Comment
import ScriptLexer.Lexeme.Number
import ScriptLexer.Lexeme.Quoted
import ScriptLexer.Lexeme.Sign
import ScriptLexer.Lexeme.Word

/-!
# Lexing a text

The lexer skips blanks, asks the families of lexemes in a fixed order what stands ahead, and records
what the first of them reads; a character that begins no lexeme is reported and passed. Every lexeme
thus ends up in a token, in an error, or in both where the error is about the place of a sound
lexeme. A run makes no more steps than the text has characters.
-/
namespace ScriptLexer

structure LexingOptions where
  /-- Report a block comment that the text ends. -/
  reportOpenComments : Bool := false
  deriving DecidableEq, Repr

/-- What a text is made of: its tokens and its errors, each in the order of the text. -/
structure Lexing where
  tokens : List Token
  errors : List LexicalError
  deriving DecidableEq, Repr

/-- The families of lexemes. -/
inductive Family where
  | newlines
  | comment
  | quoted
  | number
  | word
  | operator
  | punctuation
  deriving DecidableEq, Repr

namespace Family

/-- The order in which the families are asked. -/
def all : List Family := [newlines, comment, quoted, number, word, operator, punctuation]

/-- What the family reads at the beginning of the text. -/
def read : Family → List Char → Except Fault (Option Reading)
  | newlines, text => .ok (readNewlines text)
  | comment, text => readComment text
  | quoted, text => .ok (readQuoted text)
  | number, text => .ok (readNumber text)
  | word, text => .ok (readWord text)
  | operator, text => .ok (readOperator text)
  | punctuation, text => .ok (readPunctuation text)

end Family

/-- A run under way: where it stands, and what is recorded so far, the latest first. -/
structure LexingState where
  cursor : Cursor
  tokens : List Token := []
  errors : List LexicalError := []

namespace LexingState

/-- The operator that the next token would directly follow; trivia does not separate the two. -/
def previousOperator (state : LexingState) : Option Token :=
  (state.tokens.find? fun token => !token.kind.isTrivia).filter fun token => token.kind == .operator

def pushToken (kind : Token.Kind) (lexeme : String) (span : Span) (state : LexingState) :
    LexingState :=
  { state with tokens := { kind, lexeme, span } :: state.tokens }

def pushError (cause : Cause) (lexeme : String) (span : Span) (state : LexingState) : LexingState :=
  { state with errors := LexicalError.ofCause cause lexeme span :: state.errors }

/-- Records a lexeme. A misplaced operator and, where asked for, an open comment are recorded as a
token and as an error. -/
def record (options : LexingOptions) (finding : Finding) (lexeme : String) (span : Span)
    (state : LexingState) : LexingState :=
  match finding with
  | .token .operator =>
    match state.previousOperator.filter fun previous => clashes previous.lexeme lexeme with
    | some previous =>
      (state.pushError (.operatorSequence previous.lexeme) lexeme span).pushToken .operator
        lexeme span
    | none => state.pushToken .operator lexeme span
  | .token kind => state.pushToken kind lexeme span
  | .openComment =>
    if options.reportOpenComments then
      (state.pushToken .blockComment lexeme span).pushError .openComment lexeme span
    else
      state.pushToken .blockComment lexeme span
  | .error cause => state.pushError cause lexeme span

/-- Passes the characters of a reading and records them as one lexeme. -/
def commit (options : LexingOptions) (reading : Reading) (state : LexingState) :
    Except Fault LexingState := do
  let stop ← state.cursor.nextn reading.length
  let lexeme ← state.cursor.textUpTo stop
  let span := Span.between state.cursor.place stop.place
  return { state with cursor := stop }.record options reading.finding (String.ofList lexeme) span

/-- Lets one family read ahead: whether it has a lexeme here, and the state after it. -/
def scan (options : LexingOptions) (family : Family) (state : LexingState) :
    Except Fault (Bool × LexingState) := do
  let ahead ← state.cursor.remaining
  match ← family.read ahead with
  | some reading => return (true, ← state.commit options reading)
  | none => return (false, state)

/-- Asks families in turn until one has a lexeme here. -/
def scanFirst (options : LexingOptions) :
    List Family → LexingState → Except Fault (Bool × LexingState)
  | [], state => .ok (false, state)
  | family :: others, state => do
    let (accepted, state) ← state.scan options family
    if accepted then return (true, state) else state.scanFirst options others

/-- Passes one character that begins no lexeme. -/
def reject (options : LexingOptions) (state : LexingState) : Except Fault LexingState := do
  let c ← state.cursor.peek 0
  state.commit options { finding := .error (.unrecognized c), length := 1 }

/-- Passes the lexeme that stands ahead. -/
def step (options : LexingOptions) (state : LexingState) : Except Fault LexingState := do
  let (accepted, state) ← state.scanFirst options Family.all
  if accepted then return state else state.reject options

def skipBlanks (state : LexingState) : Except Fault LexingState := do
  return { state with cursor := ← state.cursor.skipWhile isBlank }

/-- Passes lexemes up to the end of the text, at most `budget` of them. -/
def run (options : LexingOptions) (budget : Nat) (state : LexingState) :
    Except Fault LexingState := do
  let state ← state.skipBlanks
  if state.cursor.isAtEnd then
    return state
  else
    match budget with
    | 0 => throw .stalled
    | budget + 1 => run options budget (← state.step options)

end LexingState

/-- The tokens and errors of a text. -/
def lexText (options : LexingOptions) (source : String) : Except Fault Lexing := do
  let text := source.toList
  let final ← LexingState.run options text.length { cursor := Cursor.ofText text }
  return { tokens := final.tokens.reverse, errors := final.errors.reverse }

namespace Lexing

/-- Adds a number to an ascending list that holds it at most once. -/
def insertLine (line : Nat) : List Nat → List Nat
  | [] => [line]
  | first :: others =>
    if line < first then line :: first :: others
    else if line = first then first :: others
    else first :: insertLine line others

/-- The lines with an error, ascending, each once. -/
def linesWithErrors (lexing : Lexing) : List Nat :=
  lexing.errors.foldr (fun error lines => insertLine error.span.line lines) []

def hasErrors (lexing : Lexing) : Bool := !lexing.errors.isEmpty

end Lexing

end ScriptLexer
