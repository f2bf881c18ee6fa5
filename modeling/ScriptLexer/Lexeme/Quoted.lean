import ScriptLexer.Lexeme.Basic

/-!
# Strings

A string stands between two equal quotes, single or double, on one line. A backslash takes the
character after it along, whatever that is: a quote, another backslash or a line break.
-/
namespace ScriptLexer

/-- Where the body of a string ends. -/
structure QuotedEnd where
  /-- Characters up to and including the closing quote, the opening one counted in. -/
  length : Nat
  closed : Bool
  deriving DecidableEq, Repr

/-- Reads on in the body of a string with `passed` characters behind. -/
def quotedEnd (quote : Char) (passed : Nat) : List Char → QuotedEnd
  | [] => { length := passed, closed := false }
  | '\n' :: _ => { length := passed, closed := false }
  | ['\\'] => { length := passed + 1, closed := false }
  | '\\' :: _ :: rest => quotedEnd quote (passed + 2) rest
  | c :: rest =>
    if c = quote then { length := passed + 1, closed := true }
    else quotedEnd quote (passed + 1) rest

def isQuote (c : Char) : Bool := c == '"' || c == '\''

/-- A string, if the text begins with a quote. -/
def readQuoted : List Char → Option Reading
  | [] => none
  | quote :: body =>
    if isQuote quote then
      let reached := quotedEnd quote 1 body
      some {
        finding := if reached.closed then .token .string else .error (.openString quote)
        length := reached.length }
    else
      none

end ScriptLexer
