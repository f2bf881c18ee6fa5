import ScriptLexer.Json
import ScriptLexer.Lexing

/-!
# JSON report

Tokens, errors and the lines with errors as one JSON document. Members are written in the order of
their names.
-/
namespace ScriptLexer

def Span.toJson (span : Span) : Json :=
  .object [
    ("column", .number span.column),
    ("end", .number span.stop),
    ("line", .number span.line),
    ("start", .number span.start)]

def Token.toJson (token : Token) : Json :=
  .object [
    ("category", .string token.category.name),
    ("kind", .string token.kind.name),
    ("lexeme", .string token.lexeme),
    ("span", token.span.toJson)]

def LexicalError.toJson (error : LexicalError) : Json :=
  .object [
    ("code", .string error.code.name),
    ("lexeme", .string error.lexeme),
    ("message", .string error.message),
    ("span", error.span.toJson)]

namespace Lexing

def toJson (lexing : Lexing) : Json :=
  .object [
    ("error_lines", .array (lexing.linesWithErrors.map .number)),
    ("errors", .array (lexing.errors.map LexicalError.toJson)),
    ("tokens", .array (lexing.tokens.map Token.toJson))]

/-- The document as a text, ended by a line break. -/
def toDocument (lexing : Lexing) : String := lexing.toJson.render ++ "\n"

end Lexing

end ScriptLexer
