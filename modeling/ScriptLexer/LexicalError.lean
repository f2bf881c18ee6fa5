import ScriptLexer.Place

/-!
# Lexical errors

A cause says what is wrong with a lexeme and fixes the code and the wording of the report. The
report itself keeps code, wording, lexeme and span, so it can also be made for a cause found
elsewhere.
-/
namespace ScriptLexer

inductive ErrorCode where
  | unrecognized
  | unterminatedString
  | malformedNumber
  | illegalIdentifier
  | operatorSequence
  | unterminatedComment
  deriving DecidableEq, Repr

namespace ErrorCode

def all : List ErrorCode :=
  [unrecognized, unterminatedString, malformedNumber, illegalIdentifier, operatorSequence,
    unterminatedComment]

def number : ErrorCode → Nat
  | unrecognized => 0
  | unterminatedString => 1
  | malformedNumber => 2
  | illegalIdentifier => 3
  | operatorSequence => 4
  | unterminatedComment => 5

def name : ErrorCode → String
  | unrecognized => "E000"
  | unterminatedString => "E001"
  | malformedNumber => "E002"
  | illegalIdentifier => "E003"
  | operatorSequence => "E004"
  | unterminatedComment => "E005"

/-- How the author of the text can mend it. -/
def help : ErrorCode → String
  | unrecognized => "remove the character or place it inside a string"
  | unterminatedString => "close the string with the quote that opened it"
  | malformedNumber => "use a single decimal point followed by digits, and digits after an exponent"
  | illegalIdentifier => "identifiers must start with a letter or '_'"
  | operatorSequence => "separate the operators with an operand or parentheses"
  | unterminatedComment => "close the comment with '>>>'"

/-- The code of a given number. -/
def ofNumber? (number : Nat) : Option ErrorCode := all[number]?

end ErrorCode

/-- What spoils a number literal. -/
inductive NumberFlaw where
  | secondPoint
  | missingExponent
  | trailingPoint
  deriving DecidableEq, Repr

def NumberFlaw.description : NumberFlaw → String
  | secondPoint => "multiple decimal points"
  | missingExponent => "missing exponent value"
  | trailingPoint => "trailing decimal point"

/-- What is wrong with a lexeme. -/
inductive Cause where
  /-- A character that begins no lexeme. -/
  | unrecognized (c : Char)
  /-- A string that its line, or the text, ends before the closing quote. -/
  | openString (quote : Char)
  | number (flaw : NumberFlaw)
  /-- A name that begins like a number. -/
  | illegalIdentifier
  /-- An operator that may not follow the one before it. -/
  | operatorSequence (previous : String)
  /-- A block comment that the text ends before its closing delimiter. -/
  | openComment
  deriving DecidableEq, Repr

namespace Cause

def code : Cause → ErrorCode
  | unrecognized _ => .unrecognized
  | openString _ => .unterminatedString
  | number _ => .malformedNumber
  | illegalIdentifier => .illegalIdentifier
  | operatorSequence _ => .operatorSequence
  | openComment => .unterminatedComment

def message (lexeme : String) : Cause → String
  | unrecognized c => "Unrecognized token '" ++ String.singleton c ++ "'"
  | openString quote =>
    "Unterminated string literal (missing closing " ++ String.singleton quote ++ ")"
  | number flaw => "Malformed number literal: " ++ flaw.description ++ " ('" ++ lexeme ++ "')"
  | illegalIdentifier => "Illegal identifier '" ++ lexeme ++ "' (cannot start with digit)"
  | operatorSequence previous =>
    "Invalid operator sequence: '" ++ previous ++ "' cannot be followed by '" ++ lexeme ++ "'"
  | openComment => "Unterminated multi-line comment (missing closing >>>)"

end Cause

structure LexicalError where
  code : ErrorCode
  message : String
  lexeme : String
  span : Span
  deriving DecidableEq, Repr

namespace LexicalError

/-- The report of a cause found on a lexeme. -/
def ofCause (cause : Cause) (lexeme : String) (span : Span) : LexicalError :=
  { code := cause.code, message := cause.message lexeme, lexeme, span }

/-- One line for a reader: code, message and place. -/
def display (error : LexicalError) : String :=
  "[" ++ error.code.name ++ "] " ++ error.message ++ " (line " ++ toString error.span.line ++
    ", col " ++ toString error.span.column ++ ")"

end LexicalError

end ScriptLexer
