import ScriptLexer.Toml.Number
import ScriptLexer.Toml.Quoted

/-!
# TOML documents

A document is a list of statements: a key is set to a value, or a header opens a table or one more
element of a list of tables. Whether a statement fits the ones before it depends on how each table
came about, so a document under construction keeps that with every table. A key is set once, a table
is opened once, a dotted key extends only what dotted keys have made, and nothing extends a value.
-/
namespace ScriptLexer.Toml

/-- How a table came about. -/
inductive Origin where
  /-- Opened by a header of its own, or the table of the whole document. -/
  | header
  /-- Named on the way to a table that a header opened. -/
  | passed
  /-- Named on the way to a value that a dotted key set. -/
  | dotted
  deriving DecidableEq, Repr

/-- A part of a document under construction. -/
inductive Node where
  | value (value : Value)
  | table (origin : Origin) (entries : List (String × Node))
  /-- A list of tables, the latest first. -/
  | tables (elements : List (List (String × Node)))

/-- The entries of a table under construction. -/
abbrev Entries := List (String × Node)

namespace Entries

def get? (entries : Entries) (key : String) : Option Node := List.lookup key entries

/-- Puts a node in the place of the one under its key, or behind all others. -/
def set (key : String) (node : Node) : Entries → Entries
  | [] => [(key, node)]
  | (other, old) :: rest =>
    if other = key then (key, node) :: rest else (other, old) :: set key node rest

/-- Sets the value of a key that has none. -/
def add (value : Value) (last : String) (entries : Entries) : Option Entries :=
  match entries.get? last with
  | none => some (entries.set last (.value value))
  | some _ => none

/-- Sets a value under a dotted key, given as its last part and the parts before it. A table with a
header of its own is never extended this way, and the innermost one has to be made by dotted
keys. -/
def assign (value : Value) (last : String) : List String → Entries → Option Entries
  | [], entries => entries.add value last
  | part :: others, entries =>
    match entries.get? part with
    | none => (assign value last others []).map fun inner => entries.set part (.table .dotted inner)
    | some (.table origin inner) =>
      if origin = .header ∨ (others = [] ∧ origin ≠ .dotted) then
        none
      else
        (assign value last others inner).map fun inner => entries.set part (.table origin inner)
    | some (.tables (latest :: earlier)) =>
      if others = [] then
        none
      else
        (assign value last others latest).map fun latest =>
          entries.set part (.tables (latest :: earlier))
    | some _ => none

/-- Changes the entries of the table that a header's key leads to, opening tables on the way. -/
def visit (change : Entries → Option Entries) : List String → Entries → Option Entries
  | [], entries => change entries
  | part :: others, entries =>
    match entries.get? part with
    | none => (visit change others []).map fun inner => entries.set part (.table .passed inner)
    | some (.table origin inner) =>
      (visit change others inner).map fun inner => entries.set part (.table origin inner)
    | some (.tables (latest :: earlier)) =>
      (visit change others latest).map fun latest => entries.set part (.tables (latest :: earlier))
    | some _ => none

/-- Opens the table under a header's last part; only a table passed on the way may be there. -/
def openTable (last : String) (entries : Entries) : Option Entries :=
  match entries.get? last with
  | none => some (entries.set last (.table .header []))
  | some (.table .passed inner) => some (entries.set last (.table .header inner))
  | some _ => none

/-- Opens one more element of the list of tables under a header's last part. -/
def openElement (last : String) (entries : Entries) : Option Entries :=
  match entries.get? last with
  | none => some (entries.set last (.tables [[]]))
  | some (.tables elements) => some (entries.set last (.tables ([] :: elements)))
  | some _ => none

end Entries

mutual

/-- The value that a finished part says. -/
def Node.toValue : Node → Value
  | .value value => value
  | .table _ entries => .table (tableOf entries)
  | .tables elements => .array (tablesOf [] elements)

def tableOf : List (String × Node) → Table
  | [] => []
  | (key, node) :: rest => (key, node.toValue) :: tableOf rest

/-- The tables in the order in which they were opened. -/
def tablesOf (later : List Value) : List (List (String × Node)) → List Value
  | [] => later
  | entries :: earlier => tablesOf (.table (tableOf entries) :: later) earlier

end

/-- A key with at least one part, its last part apart. -/
structure Key where
  parents : List String
  last : String
  deriving DecidableEq, Repr

def isBareKeyChar (c : Char) : Bool := c.isAlphanum || c == '_' || c == '-'

/-- One part of a key: a word or a string on one line. -/
def readKeyPart (text : List Char) : Option (String × List Char) :=
  match text with
  | [] => none
  | c :: _ =>
    if (escapesIn? c).isSome then
      (readString text).map fun (part, rest) => (String.ofList part, rest)
    else
      let part := text.takeWhile isBareKeyChar
      if part.isEmpty then none else some (String.ofList part, text.dropWhile isBareKeyChar)

/-- The parts of a key, with points between them and blanks around each; `fuel` bounds their
number. -/
def readKeyParts : Nat → Reader (List String)
  | 0, _ => none
  | fuel + 1, text => do
    let (part, rest) ← readKeyPart (skipBlanks text)
    match skipBlanks rest with
    | '.' :: rest => do
      let (parts, rest) ← readKeyParts fuel rest
      some (part :: parts, rest)
    | rest => some ([part], rest)

def readKey (text : List Char) : Option (Key × List Char) := do
  let (parts, rest) ← readKeyParts depthLimit text
  let last ← parts.getLast?
  return ({ parents := parts.dropLast, last }, rest)

/-- A key and its value, with `readItem` reading the value. -/
def readPair (readItem : Reader Value) (text : List Char) : Option ((Key × Value) × List Char) := do
  let (key, rest) ← readKey text
  match rest with
  | '=' :: rest => do
    let (value, rest) ← readItem (skipBlanks rest)
    return ((key, value), rest)
  | _ => none

/-- The items of an array after its opening bracket; `fuel` bounds their number. -/
def readItems (readItem : Reader Value) : Nat → Reader (List Value)
  | 0, _ => none
  | fuel + 1, text => do
    match ← skipLines? false text with
    | ']' :: rest => return ([], rest)
    | text => do
      let (item, rest) ← readItem text
      match ← skipLines? false rest with
      | ',' :: rest => do
        let (items, rest) ← readItems readItem fuel rest
        return (item :: items, rest)
      | ']' :: rest => return ([item], rest)
      | _ => none

/-- The pairs of an inline table, at least one; `fuel` bounds their number. -/
def readPairs (readItem : Reader Value) : Nat → Reader (List (Key × Value))
  | 0, _ => none
  | fuel + 1, text => do
    let (pair, rest) ← readPair readItem text
    match skipBlanks rest with
    | ',' :: rest => do
      let (pairs, rest) ← readPairs readItem fuel rest
      return (pair :: pairs, rest)
    | '\x7d' :: rest => return ([pair], rest)
    | _ => none

/-- The table that pairs make, if none contradicts another. -/
def tableOfPairs? (pairs : List (Key × Value)) : Option Table :=
  (pairs.foldlM (fun entries pair =>
    Entries.assign pair.2 pair.1.last pair.1.parents entries) []).map tableOf

/-- A value that nests no other. -/
def readScalar : Reader Value
  | 't' :: 'r' :: 'u' :: 'e' :: rest => some (.boolean true, rest)
  | 'f' :: 'a' :: 'l' :: 's' :: 'e' :: rest => some (.boolean false, rest)
  | c :: rest =>
    if (escapesIn? c).isSome then
      (readText (c :: rest)).map fun (text, rest) => (.string (String.ofList text), rest)
    else
      readNumberOrDate (c :: rest)
  | [] => none

/-- A value with at most `depth` arrays and tables around any of its parts. -/
def readValue (depth : Nat) (text : List Char) : Option (Value × List Char) :=
  match depth, text with
  | depth + 1, '[' :: rest => do
    let (items, rest) ← readItems (readValue depth) text.length rest
    return (.array items, rest)
  | depth + 1, '\x7b' :: rest => do
    match skipBlanks rest with
    | '\x7d' :: rest => return (.table [], rest)
    | rest => do
      let (pairs, rest) ← readPairs (readValue depth) text.length rest
      return (.table (← tableOfPairs? pairs), rest)
  | _, text => readScalar text

/-- One statement of a document. -/
inductive Statement where
  | pair (key : Key) (value : Value)
  | openTable (key : Key)
  | openElement (key : Key)

/-- A statement, up to what may end its line. -/
def readStatement : Reader Statement
  | '[' :: '[' :: rest => do
    match ← readKey rest with
    | (key, ']' :: ']' :: rest) => return (.openElement key, rest)
    | _ => none
  | '[' :: rest => do
    match ← readKey rest with
    | (key, ']' :: rest) => return (.openTable key, rest)
    | _ => none
  | text => do
    let ((key, value), rest) ← readPair (readValue depthLimit) text
    return (.pair key value, rest)

/-- All statements up to the end of the text; `fuel` bounds the number of lines. -/
def readStatements : Nat → List Char → Option (List Statement)
  | 0, _ => none
  | fuel + 1, text =>
    match skipBlanks text with
    | [] => some []
    | '\n' :: rest => readStatements fuel rest
    | '\r' :: rest => (newline? ('\r' :: rest)).bind (readStatements fuel)
    | '#' :: rest => (lineEnd? ('#' :: rest)).bind (readStatements fuel)
    | text => do
      let (statement, rest) ← readStatement text
      let statements ← readStatements fuel (← lineEnd? rest)
      return statement :: statements

/-- A document under construction, and the key of the table that pairs now belong to. -/
structure Draft where
  entries : Entries := []
  current : List String := []

def Draft.apply (draft : Draft) : Statement → Option Draft
  | .pair key value => do
    let entries ← draft.entries.visit (Entries.assign value key.last key.parents) draft.current
    return { draft with entries }
  | .openTable key => do
    let entries ← draft.entries.visit (Entries.openTable key.last) key.parents
    return { entries, current := key.parents ++ [key.last] }
  | .openElement key => do
    let entries ← draft.entries.visit (Entries.openElement key.last) key.parents
    return { entries, current := key.parents ++ [key.last] }

/-- The document that a text says; a byte order mark may come first. -/
def parse? (text : List Char) : Option Table := do
  let text := match text with
    | '\ufeff' :: rest => rest
    | text => text
  let statements ← readStatements (text.length + 1) text
  let draft ← statements.foldlM Draft.apply {}
  return tableOf draft.entries

/-- The value under a key of a table. -/
def Table.get? (table : Table) (key : String) : Option Value := List.lookup key table

end ScriptLexer.Toml
