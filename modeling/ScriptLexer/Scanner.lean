import ScriptLexer.Cursor.Moves
import ScriptLexer.Lexing

/-!
# Scanners

A second lexer, which reads nothing ahead. Each of its scanners either declines or passes its lexeme
one character at a time and then records it, cutting its text out of the source; every cut, every
count and every look ahead is an operation that can fail. The number scanner passes a minus sign
before it knows whether it has a number, and goes back if it has none.
-/
namespace ScriptLexer

namespace Text

/-- The offset of the first line break. -/
def breakOffset? (text : List Char) : Option Nat :=
  if '\n' ∈ text then some (byteLength (text.takeWhile (· != '\n'))) else none

def restOfLine (text : List Char) : Except Fault (List Char) :=
  match breakOffset? text with
  | some stop => cutBefore stop text
  | none => .ok text

end Text

/-- The operator that the text begins with. What is cut off before its third character is one of two
characters only if it has two bytes. -/
def matchOperator : List Char → Except Fault (Option (List Char))
  | [] => .ok none
  | first :: others => do
    let two ← Text.cutBefore (Text.offsetOf 2 (first :: others)) (first :: others)
    if Text.byteLength two = 2 ∧ ∃ signs ∈ longOperators, two = [signs.1, signs.2] then
      return some two
    else if first ∈ shortOperators then
      return some (← Text.cutBefore first.utf8Size (first :: others))
    else
      return none

namespace LexingState

/-- The state with its cursor elsewhere. -/
def moved (cursor : Cursor) (state : LexingState) : LexingState := { state with cursor }

/-- Records a token for what was passed since `start`. -/
def closeToken (kind : Token.Kind) (start : Place) (state : LexingState) :
    Except Fault LexingState := do
  let lexeme ← state.cursor.textSince start.position
  return state.pushToken kind (String.ofList lexeme) (Span.between start state.cursor.place)

/-- Records an error for what was passed since `start`. -/
def closeError (cause : Cause) (start : Place) (state : LexingState) :
    Except Fault LexingState := do
  let lexeme ← state.cursor.textSince start.position
  return state.pushError cause (String.ofList lexeme) (Span.between start state.cursor.place)

end LexingState

namespace Scanner

/-- Whether the scanner had a lexeme, and the state after it. -/
abbrev Answer := Except Fault (Bool × LexingState)

def accept (closed : Except Fault LexingState) : Answer := closed.map fun after => (true, after)

def decline (state : LexingState) : Answer := .ok (false, state)

/-! ## Line breaks and words -/

def newlines (start : Place) (state : LexingState) : Answer := do
  if (← state.cursor.look 0) = '\n' then
    let stop ← state.cursor.eatWhile (· == '\n')
    accept ((state.moved stop).closeToken .newline start)
  else
    decline state

def word (start : Place) (state : LexingState) : Answer := do
  if isWordStart (← state.cursor.look 0) then
    let stop ← state.cursor.eatWhile isWordChar
    let lexeme ← stop.textSince start.position
    let kind := if isReserved (String.ofList lexeme) then Token.Kind.keyword else .identifier
    accept ((state.moved stop).closeToken kind start)
  else
    decline state

/-! ## Comments -/

def raise (depth : Nat) : Except Fault Nat :=
  if depth + 1 < counterLimit then .ok (depth + 1) else .error .counterOverflow

def lower : Nat → Except Fault Nat
  | 0 => .error .counterOverflow
  | depth + 1 => .ok depth

/-- One unit of the body of a block comment, or its end: whether it was closed. -/
def blockTurn : Cursor × Nat → Except Fault (Turn (Cursor × Nat) (Cursor × Bool))
  | (cursor, depth) => do
    if cursor.isAtEnd then
      return .done (cursor, false)
    else if ← cursor.startsWith opening then
      let after ← cursor.walk (Text.byteLength opening)
      return .more (after, ← raise depth)
    else if ← cursor.startsWith closing then
      let after ← cursor.walk (Text.byteLength closing)
      if depth = 0 then
        return .done (after, true)
      else
        return .more (after, ← lower depth)
    else
      return .more (← cursor.advance, depth)

def closeBlock (options : LexingOptions) (closed : Bool) (start : Place) (state : LexingState) :
    Except Fault LexingState := do
  let after ← state.closeToken .blockComment start
  if !closed && options.reportOpenComments then after.closeError .openComment start
  else return after

def comment (options : LexingOptions) (start : Place) (state : LexingState) : Answer := do
  if ← state.cursor.startsWith opening then
    let inside ← state.cursor.walk (Text.byteLength opening)
    let line ← Text.restOfLine (← inside.remaining)
    if mentionsClosing line then
      let (stop, closed) ← takeTurns blockTurn inside.turns (inside, 0)
      accept (closeBlock options closed start (state.moved stop))
    else
      let stop ← inside.eatWhile (· != '\n')
      accept ((state.moved stop).closeToken .lineComment start)
  else
    decline state

/-! ## Strings -/

/-- One unit of the body of a string, or its end: whether it was closed. A backslash takes the next
character along, if there is one. -/
def quotedTurn (quote : Char) (cursor : Cursor) : Except Fault (Turn Cursor (Cursor × Bool)) := do
  if cursor.isAtEnd then
    return .done (cursor, false)
  else
    let c ← cursor.look 0
    if c = '\n' then
      return .done (cursor, false)
    else if c = '\\' then
      let escaped ← cursor.advance
      return .more (← escaped.advance)
    else if c = quote then
      return .done (← cursor.advance, true)
    else
      return .more (← cursor.advance)

def quoted (start : Place) (state : LexingState) : Answer := do
  let quote ← state.cursor.look 0
  if isQuote quote then
    let inside ← state.cursor.advance
    let (stop, closed) ← takeTurns (quotedTurn quote) inside.turns inside
    if closed then
      accept ((state.moved stop).closeToken .string start)
    else
      accept ((state.moved stop).closeError (.openString quote) start)
  else
    decline state

/-! ## Numbers -/

/-- A number as far as it is read. -/
structure Numeral where
  cursor : Cursor
  pointed : Bool := false
  /-- A point or an exponent was read. -/
  double : Bool := false

/-- Reads the digits of an exponent, or the word that stands in their place. -/
def exponentDigits (numeral : Numeral) : Except Fault (Numeral × Option NumberFlaw) := do
  if (← numeral.cursor.look 0).isDigit then
    let stop ← numeral.cursor.eatWhile Char.isDigit
    return ({ numeral with cursor := stop, double := true }, none)
  else
    let stop ← numeral.cursor.eatWhile isWordChar
    return ({ numeral with cursor := stop, double := true }, some .missingExponent)

/-- Passes the next character if it is one of the signs. -/
def passSign (signs : List Char) (cursor : Cursor) : Except Fault Cursor := do
  if (← cursor.look 0) ∈ signs then cursor.advance else return cursor

/-- Reads an exponent from its mark on. -/
def exponent (numeral : Numeral) : Except Fault (Numeral × Option NumberFlaw) := do
  let marked ← numeral.cursor.advance
  let signed ← passSign ['+', '-'] marked
  exponentDigits { numeral with cursor := signed }

/-- One character of a number, or its end: what has spoiled it by then. -/
def numberTurn (numeral : Numeral) : Except Fault (Turn Numeral (Numeral × Option NumberFlaw)) := do
  let c ← numeral.cursor.look 0
  if c.isDigit then
    return .more { numeral with cursor := ← numeral.cursor.advance }
  else if c = '.' then
    if numeral.pointed then
      let stop ← numeral.cursor.eatWhile isNumberChar
      return .done ({ numeral with cursor := stop }, some .secondPoint)
    else
      return .more { cursor := ← numeral.cursor.advance, pointed := true, double := true }
  else if isExponentMark c then
    return .done (← exponent numeral)
  else
    return .done (numeral, none)

/-- Records a number, unless it ends in a point that is not all of it, or a word stands right behind
it. -/
def closeNumeral (numeral : Numeral) (start : Place) (state : LexingState) :
    Except Fault LexingState := do
  let lexeme ← numeral.cursor.textSince start.position
  if 1 < Text.byteLength lexeme ∧ lexeme.getLast? = some '.' then
    (state.moved numeral.cursor).closeError (.number .trailingPoint) start
  else if isWordStart (← numeral.cursor.look 0) then
    let stop ← numeral.cursor.eatWhile isWordChar
    (state.moved stop).closeError .illegalIdentifier start
  else
    (state.moved numeral.cursor).closeToken (if numeral.double then .double else .integer) start

/-- Records what the loop over a number came to. -/
def settle (start : Place) (state : LexingState) :
    Numeral × Option NumberFlaw → Except Fault LexingState
  | (numeral, some flaw) => (state.moved numeral.cursor).closeError (.number flaw) start
  | (numeral, none) => closeNumeral numeral start state

def number (start : Place) (state : LexingState) : Answer := do
  let signed ← passSign ['-'] state.cursor
  if isNumberChar (← signed.look 0) then
    let reached ← takeTurns numberTurn signed.turns { cursor := signed }
    accept (settle start state reached)
  else
    decline (state.moved (signed.restore start))

/-! ## Operators and punctuation -/

def operator (start : Place) (state : LexingState) : Answer := do
  match ← matchOperator (← state.cursor.remaining) with
  | some found =>
    let passed := state.moved (← state.cursor.walk found.length)
    match state.previousOperator.filter fun previous =>
        clashes previous.lexeme (String.ofList found) with
    | some previous =>
      let reported ← passed.closeError (.operatorSequence previous.lexeme) start
      accept (reported.closeToken .operator start)
    | none => accept (passed.closeToken .operator start)
  | none => decline state

def punctuation (start : Place) (state : LexingState) : Answer := do
  if (← state.cursor.look 0) ∈ ScriptLexer.punctuation then
    accept ((state.moved (← state.cursor.advance)).closeToken .punctuation start)
  else
    decline state

/-! ## The driver -/

/-- The scanner of a family. -/
def scan (options : LexingOptions) (start : Place) : Family → LexingState → Answer
  | .newlines, state => newlines start state
  | .comment, state => comment options start state
  | .quoted, state => quoted start state
  | .number, state => number start state
  | .word, state => word start state
  | .operator, state => operator start state
  | .punctuation, state => punctuation start state

/-- Lets the scanners of families try in turn until one has a lexeme here. -/
def scanFirst (options : LexingOptions) (start : Place) : List Family → LexingState → Answer
  | [], state => decline state
  | family :: others, state => do
    let (accepted, after) ← scan options start family state
    if accepted then return (true, after) else scanFirst options start others after

/-- Passes the lexeme that stands ahead, or one character that begins none. -/
def step (options : LexingOptions) (state : LexingState) : Except Fault LexingState := do
  let start := state.cursor.place
  let (accepted, after) ← scanFirst options start Family.all state
  if accepted then
    return after
  else
    let (c, stop) ← after.cursor.next
    (after.moved stop).closeError (.unrecognized c) start

def skipBlanks (state : LexingState) : Except Fault LexingState :=
  (state.cursor.eatWhile isBlank).map fun stop => state.moved stop

/-- Passes lexemes up to the end of the text, at most `budget` of them. -/
def run (options : LexingOptions) (budget : Nat) (state : LexingState) :
    Except Fault LexingState := do
  let state ← skipBlanks state
  if state.cursor.isAtEnd then
    return state
  else
    match budget with
    | 0 => throw .stalled
    | budget + 1 => run options budget (← step options state)

def lexText (options : LexingOptions) (source : String) : Except Fault Lexing := do
  let text := source.toList
  let final ← run options text.length { cursor := Cursor.ofText text }
  return { tokens := final.tokens.reverse, errors := final.errors.reverse }

end Scanner

end ScriptLexer
