import ScriptLexer.Cursor
import ScriptLexer.Lexeme.Basic

/-!
# Comments

A comment opens with `<<<`. If a `>>>` stands on the rest of that line it is a block comment, which
nests and may go on over many lines; otherwise it ends with its line. Delimiters are read from left
to right without overlap, so of four signs in a row the first three are one.
-/
namespace ScriptLexer

/-- The delimiter that opens a comment. -/
def opening : List Char := ['<', '<', '<']

/-- The delimiter that closes a block comment. -/
def closing : List Char := ['>', '>', '>']

/-- A closing delimiter stands somewhere in the text. -/
def mentionsClosing : List Char → Bool
  | '>' :: '>' :: '>' :: _ => true
  | _ :: rest => mentionsClosing rest
  | [] => false

/-- Where the body of a block comment ends. -/
structure CommentEnd where
  /-- Characters of the body, its closing delimiter included. -/
  length : Nat
  closed : Bool
  deriving DecidableEq, Repr

/-- Reads on in the body of a block comment with `depth` inner comments open and `passed` characters
behind. A closing delimiter ends the body only where no inner comment is open. -/
def commentEnd (depth passed : Nat) : List Char → Except Fault CommentEnd
  | '<' :: '<' :: '<' :: rest =>
    if depth + 1 < counterLimit then
      commentEnd (depth + 1) (passed + 3) rest
    else
      .error .counterOverflow
  | '>' :: '>' :: '>' :: rest =>
    match depth with
    | 0 => .ok { length := passed + 3, closed := true }
    | depth + 1 => commentEnd depth (passed + 3) rest
  | _ :: rest => commentEnd depth (passed + 1) rest
  | [] => .ok { length := passed, closed := false }

/-- A comment, if the text begins with one. -/
def readComment : List Char → Except Fault (Option Reading)
  | '<' :: '<' :: '<' :: body =>
    let firstLine := body.takeWhile (· != '\n')
    if mentionsClosing firstLine then
      (commentEnd 0 3 body).map fun reached =>
        some {
          finding := if reached.closed then .token .blockComment else .openComment
          length := reached.length }
    else
      .ok (some { finding := .token .lineComment, length := 3 + firstLine.length })
  | _ => .ok none

end ScriptLexer
