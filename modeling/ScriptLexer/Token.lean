import ScriptLexer.Place

/-!
# Tokens

A token is a lexeme with its kind and its span. The kind fixes the category, so the category is not
stored beside it.
-/
namespace ScriptLexer

inductive Token.Kind where
  /-- A run of line breaks. -/
  | newline
  /-- A comment that ends with its line. -/
  | lineComment
  /-- A comment between delimiters, which may nest. -/
  | blockComment
  | string
  | integer
  | double
  | keyword
  | identifier
  | operator
  | punctuation
  deriving DecidableEq, Repr, Inhabited

/-- The broader class under which a token is reported. -/
inductive Token.Category where
  | separator
  | comment
  | string
  | integer
  | double
  | keyword
  | identifier
  | operator
  deriving DecidableEq, Repr

namespace Token.Category

def name : Token.Category → String
  | separator => "SEPARATOR"
  | comment => "COMMENT"
  | string => "STRING_LIT"
  | integer => "INT_LIT"
  | double => "DBL_LIT"
  | keyword => "KEYWORD"
  | identifier => "IDENTIFIER"
  | operator => "OPERATOR"

end Token.Category

namespace Token.Kind

def name : Token.Kind → String
  | newline => "NEWLINE"
  | lineComment => "COMMENT_SINGLE"
  | blockComment => "COMMENT_MULTI"
  | string => "STRING"
  | integer => "INTEGER"
  | double => "DOUBLE"
  | keyword => "KEYWORD"
  | identifier => "IDENTIFIER"
  | operator => "OPERATOR"
  | punctuation => "PUNCTUATION"

/-- Line breaks count as separators, like punctuation. -/
def category : Token.Kind → Token.Category
  | newline => .separator
  | lineComment => .comment
  | blockComment => .comment
  | string => .string
  | integer => .integer
  | double => .double
  | keyword => .keyword
  | identifier => .identifier
  | operator => .operator
  | punctuation => .separator

/-- Line breaks and comments mean nothing to a later stage. -/
def isTrivia : Token.Kind → Bool
  | newline => true
  | lineComment => true
  | blockComment => true
  | _ => false

def all : List Token.Kind :=
  [newline, lineComment, blockComment, string, integer, double, keyword, identifier, operator,
    punctuation]

/-- The kind of a given name. -/
def ofName? (name : String) : Option Token.Kind :=
  all.find? fun kind => kind.name == name

end Token.Kind

structure Token where
  kind : Token.Kind
  lexeme : String
  span : Span
  deriving DecidableEq, Repr

namespace Token

def category (token : Token) : Token.Category := token.kind.category

/-- A keyword is shown by its spelling, any other token by its kind. -/
def shownAs (token : Token) : String :=
  match token.kind with
  | .keyword => token.lexeme
  | kind => kind.name

end Token

end ScriptLexer
