/-!
# Vocabulary

The fixed words and signs of the script language: reserved words, operators and punctuation, each in
its declared order, and which operator may not directly follow which.
-/
namespace ScriptLexer

/-- The reserved words. -/
def reservedWords : List String := [
  "anchor", "ask", "parrot", "truthy", "aye", "nay", "adrift", "pirate", "doubloon", "gold",
  "scroll", "ifwind", "elseye", "otherwise", "fer", "storm", "cut", "onward", "sailby", "ashore",
  "cease", "venture", "reel", "lastport", "alarm", "ayecheck", "sevenseas", "horizon", "be",
  "aboard", "withcrew", "eitherway", "naycrew", "naybe", "nayaboard", "rank", "map", "sink",
  "alias", "hauled", "shipin", "accord", "voyage", "holdfast"]

/-- Case matters: only the exact spelling is reserved. -/
def isReserved (word : String) : Bool := reservedWords.contains word

/-- The operators of two characters, which are tried before those of one. -/
def longOperators : List (Char × Char) := [
  ('+', '='), ('-', '='), ('*', '='), ('/', '='), ('=', '='), ('!', '='), ('<', '='), ('>', '='),
  ('/', '/'), ('<', '<'), ('>', '>')]

/-- The operators of one character. -/
def shortOperators : List Char :=
  ['+', '-', '*', '/', '%', '=', ':', '<', '>', '&', '|', '^', '~']

/-- The punctuation signs. The point is one of them, yet a number always claims it first. -/
def punctuation : List Char := ['(', ')', '[', ']', '{', '}', ',', '.']

/-- The operators that restrict what follows them fall into four classes. -/
inductive OperatorClass where
  /-- `=` and the compound assignments. -/
  | assignment
  /-- Equality and order. -/
  | comparison
  /-- `+ * / %`; the minus sign is none of them, as it may also be a sign. -/
  | arithmetic
  | colon
  deriving DecidableEq, Repr

namespace OperatorClass

def members : OperatorClass → List String
  | assignment => ["+=", "-=", "*=", "/=", "="]
  | comparison => ["==", "!=", "<=", ">=", "<", ">"]
  | arithmetic => ["+", "*", "/", "%"]
  | colon => [":"]

/-- What may not directly follow an operator of the class. -/
def excluded : OperatorClass → List String
  | assignment => ["+=", "-=", "*=", "/=", "==", "!=", "<=", ">=", "=", ":", "%", "/", "*"]
  | comparison => ["+=", "-=", "*=", "/=", "==", "!=", "<=", ">=", "=", ":", "<", ">"]
  | arithmetic => ["+=", "-=", "*=", "/=", "==", "!=", "<=", ">=", "=", ":"]
  | colon =>
    ["+=", "-=", "*=", "/=", "==", "!=", "<=", ">=", "=", ":", "+", "*", "/", "%", "<", ">"]

def all : List OperatorClass := [assignment, comparison, arithmetic, colon]

/-- The class of an operator; the others restrict nothing. -/
def of? (operator : String) : Option OperatorClass :=
  all.find? fun cls => cls.members.contains operator

end OperatorClass

/-- `next` may not directly follow `previous`. -/
def clashes (previous next : String) : Bool :=
  match OperatorClass.of? previous with
  | some cls => cls.excluded.contains next
  | none => false

end ScriptLexer
