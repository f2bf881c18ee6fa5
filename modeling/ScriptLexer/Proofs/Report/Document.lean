import Mathlib.Data.List.Forall2
import ScriptLexer.Proofs.Json.Reading
import ScriptLexer.Proofs.Run
import ScriptLexer.Report.Document

/-!
# JSON reports

What a JSON report says is told by its members: arrays of tokens, errors and lines in their order,
with every text, name and number of a record under its key. Such a report leaves no choice of what
it reports, so lexings that differ never have the same document.
-/
namespace ScriptLexer

namespace Json

/-- The keys of an object, in the order of its members. -/
def keys? : Json → Option (List String)
  | object members => some (members.map Prod.fst)
  | _ => none

/-- The value that an object has under a key. -/
def member? (key : String) : Json → Option Json
  | object members => members.lookup key
  | _ => none

structure IsSpan (value : Json) (span : Span) : Prop where
  keys : value.keys? = some ["column", "end", "line", "start"]
  start : value.member? "start" = some (.number span.start)
  stop : value.member? "end" = some (.number span.stop)
  line : value.member? "line" = some (.number span.line)
  column : value.member? "column" = some (.number span.column)

structure IsToken (value : Json) (token : Token) : Prop where
  keys : value.keys? = some ["category", "kind", "lexeme", "span"]
  kind : value.member? "kind" = some (.string token.kind.name)
  category : value.member? "category" = some (.string token.category.name)
  lexeme : value.member? "lexeme" = some (.string token.lexeme)
  span : ∃ place, value.member? "span" = some place ∧ place.IsSpan token.span

structure IsError (value : Json) (error : LexicalError) : Prop where
  keys : value.keys? = some ["code", "lexeme", "message", "span"]
  code : value.member? "code" = some (.string error.code.name)
  message : value.member? "message" = some (.string error.message)
  lexeme : value.member? "lexeme" = some (.string error.lexeme)
  span : ∃ place, value.member? "span" = some place ∧ place.IsSpan error.span

/-- The document reports the lines with errors, the errors and the tokens, and nothing else. -/
structure Reports (document : Json) (lexing : Lexing) : Prop where
  keys : document.keys? = some ["error_lines", "errors", "tokens"]
  lines : document.member? "error_lines" = some (.array (lexing.linesWithErrors.map .number))
  errors : ∃ items, document.member? "errors" = some (.array items) ∧
    List.Forall₂ IsError items lexing.errors
  tokens : ∃ items, document.member? "tokens" = some (.array items) ∧
    List.Forall₂ IsToken items lexing.tokens

end Json

/-! ## Reports of records -/

theorem Span.isSpan_toJson (span : Span) : span.toJson.IsSpan span := by
  constructor <;> rfl

theorem Token.isToken_toJson (token : Token) : token.toJson.IsToken token := by
  constructor
  case span => exact ⟨token.span.toJson, rfl, token.span.isSpan_toJson⟩
  all_goals rfl

theorem LexicalError.isError_toJson (error : LexicalError) : error.toJson.IsError error := by
  constructor
  case span => exact ⟨error.span.toJson, rfl, error.span.isSpan_toJson⟩
  all_goals rfl

theorem Lexing.reports_toJson (lexing : Lexing) : lexing.toJson.Reports lexing := by
  constructor
  case errors =>
    refine ⟨lexing.errors.map LexicalError.toJson, rfl, ?_⟩
    rw [List.forall₂_map_left_iff, List.forall₂_same]
    exact fun error _ => error.isError_toJson
  case tokens =>
    refine ⟨lexing.tokens.map Token.toJson, rfl, ?_⟩
    rw [List.forall₂_map_left_iff, List.forall₂_same]
    exact fun token _ => token.isToken_toJson
  all_goals rfl

theorem Lexing.decode_toDocument (lexing : Lexing) :
    Json.decode lexing.toDocument = some lexing.toJson :=
  Json.decode_render lexing.toJson

/-! ## A report has one reading -/

theorem ErrorCode.name_injective : Function.Injective ErrorCode.name := by
  have listed : ∀ code, code ∈ all := by
    intro code
    cases code <;> decide
  have apart : ∀ first ∈ all, ∀ second ∈ all, first.name = second.name → first = second := by decide
  intro first second
  exact apart first (listed first) second (listed second)

theorem Token.Kind.ofName?_name (kind : Token.Kind) : ofName? kind.name = some kind := by
  cases kind <;> decide

theorem Token.Kind.name_injective : Function.Injective Token.Kind.name := by
  intro first second same
  have found := ofName?_name first
  rw [same, ofName?_name second] at found
  exact (Option.some.inj found).symm

namespace Json

section Readings

variable {value : Json} {key : String}

theorem number_unique {first second : Nat} (one : value.member? key = some (.number first))
    (other : value.member? key = some (.number second)) : first = second :=
  Json.number.inj (Option.some.inj (one.symm.trans other))

theorem string_unique {first second : String} (one : value.member? key = some (.string first))
    (other : value.member? key = some (.string second)) : first = second :=
  Json.string.inj (Option.some.inj (one.symm.trans other))

/-- Items that read in one way only make an array that does. -/
theorem array_unique {α : Type} {IsItem : Json → α → Prop} (unique : Relator.RightUnique IsItem)
    {first second : List α}
    (one : ∃ items, value.member? key = some (.array items) ∧ List.Forall₂ IsItem items first)
    (other : ∃ items, value.member? key = some (.array items) ∧ List.Forall₂ IsItem items second) :
    first = second := by
  obtain ⟨items, found, reads⟩ := one
  obtain ⟨same, alsoFound, alsoReads⟩ := other
  obtain rfl := Json.array.inj (Option.some.inj (found.symm.trans alsoFound))
  exact unique.forall₂ reads alsoReads

theorem isSpan_unique : Relator.RightUnique IsSpan := by
  intro value first second one other
  have start := number_unique one.start other.start
  have stop := number_unique one.stop other.stop
  have line := number_unique one.line other.line
  have column := number_unique one.column other.column
  cases first
  cases second
  simp_all

theorem span_unique {first second : Span}
    (one : ∃ place, value.member? key = some place ∧ place.IsSpan first)
    (other : ∃ place, value.member? key = some place ∧ place.IsSpan second) : first = second := by
  obtain ⟨place, found, reads⟩ := one
  obtain ⟨same, alsoFound, alsoReads⟩ := other
  obtain rfl := Option.some.inj (found.symm.trans alsoFound)
  exact isSpan_unique reads alsoReads

theorem isToken_unique : Relator.RightUnique IsToken := by
  intro value first second one other
  have kind := Token.Kind.name_injective (string_unique one.kind other.kind)
  have lexeme := string_unique one.lexeme other.lexeme
  have span := span_unique one.span other.span
  cases first
  cases second
  simp_all

theorem isError_unique : Relator.RightUnique IsError := by
  intro value first second one other
  have code := ErrorCode.name_injective (string_unique one.code other.code)
  have message := string_unique one.message other.message
  have lexeme := string_unique one.lexeme other.lexeme
  have span := span_unique one.span other.span
  cases first
  cases second
  simp_all

/-- The tokens and errors of a lexing can be told from its report. -/
theorem reports_unique : Relator.RightUnique Reports := by
  intro document first second one other
  have errors := array_unique isError_unique one.errors other.errors
  have tokens := array_unique isToken_unique one.tokens other.tokens
  cases first
  cases second
  simp_all

end Readings

end Json

theorem Lexing.toDocument_injective : Function.Injective Lexing.toDocument := by
  intro first second same
  have decoded := first.decode_toDocument
  rw [same, second.decode_toDocument] at decoded
  have reports := first.reports_toJson
  rw [← Option.some.inj decoded] at reports
  exact Json.reports_unique reports second.reports_toJson

/-- The document of a lexing, read as JSON, reports the lexing in full, and it is the document of no
other. Only a counter that overflows keeps a text from a report. -/
theorem lexText_document (options : LexingOptions) (source : String) :
    (∃ lexing, lexText options source = .ok lexing ∧
      (∃ document, Json.decode lexing.toDocument = some document ∧ document.Reports lexing) ∧
      ∀ other : Lexing, other.toDocument = lexing.toDocument → other = lexing) ∨
    (lexText options source = .error .counterOverflow ∧ counterLimit ≤ source.length + 1) := by
  rcases lexText_cases options source with ⟨lexing, lexed⟩ | overflows
  · left
    refine ⟨lexing, lexed, ⟨lexing.toJson, lexing.decode_toDocument, lexing.reports_toJson⟩, ?_⟩
    intro other same
    exact Lexing.toDocument_injective same
  · exact .inr overflows

end ScriptLexer
