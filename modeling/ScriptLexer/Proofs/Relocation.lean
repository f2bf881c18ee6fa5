import ScriptLexer.Proofs.Record

/-!
# Moving records

Nothing is read off a span when lexemes are recorded: when the spans of lexemes are changed, the
spans of their records change the same way and nothing else does.
-/
namespace ScriptLexer

def Token.mapSpan (f : Span → Span) (token : Token) : Token := { token with span := f token.span }

def LexicalError.mapSpan (f : Span → Span) (error : LexicalError) : LexicalError :=
  { error with span := f error.span }

def Located.mapSpan (f : Span → Span) (located : Located) : Located :=
  { located with span := f located.span }

variable (f : Span → Span)

namespace Located

theorem token?_mapSpan (located : Located) :
    (located.mapSpan f).token? = located.token?.map (Token.mapSpan f) := by
  rw [token?_eq, token?_eq, Option.map_map]
  rfl

theorem latest_mapSpan (previous : Option Token) (located : Located) :
    latest (previous.map (Token.mapSpan f)) (located.mapSpan f) =
      (latest previous located).map (Token.mapSpan f) := by
  unfold latest
  rw [token?_mapSpan]
  cases located.token? with
  | none => rfl
  | some token =>
    have same : (token.mapSpan f).kind = token.kind := rfl
    simp only [Option.map_some, same]
    split <;> rfl

/-- Whether an operator clashes with the one before depends on the spelling of both. -/
theorem clashing_mapSpan (previous : Option Token) (lexeme : String) :
    clashing (previous.map (Token.mapSpan f)) lexeme =
      (clashing previous lexeme).map (Token.mapSpan f) := by
  unfold clashing
  rw [Option.filter_map, Option.filter_map]
  rfl

theorem errors_mapSpan (options : LexingOptions) (previous : Option Token) (located : Located) :
    (located.mapSpan f).errors options (previous.map (Token.mapSpan f)) =
      (located.errors options previous).map (LexicalError.mapSpan f) := by
  unfold errors mapSpan
  dsimp only
  split
  · rw [clashing_mapSpan]
    cases clashing previous located.lexeme <;> rfl
  · rfl
  · split <;> rfl
  · rfl

end Located

theorem tokensOf_mapSpan (located : List Located) :
    tokensOf (located.map (Located.mapSpan f)) = (tokensOf located).map (Token.mapSpan f) := by
  have own : Located.token? ∘ Located.mapSpan f = fun one => one.token?.map (Token.mapSpan f) :=
    funext (Located.token?_mapSpan f)
  unfold tokensOf
  rw [List.filterMap_map, List.map_filterMap, own]

theorem errorsOf_mapSpan (options : LexingOptions) (previous : Option Token)
    (located : List Located) :
    errorsOf options (previous.map (Token.mapSpan f)) (located.map (Located.mapSpan f)) =
      (errorsOf options previous located).map (LexicalError.mapSpan f) := by
  induction located generalizing previous with
  | nil => rfl
  | cons first others ih =>
    rw [List.map_cons, errorsOf, errorsOf, List.map_append, Located.errors_mapSpan,
      Located.latest_mapSpan, ih]

/-! ## Without a place -/

/-- The piece as it is located, but nowhere. -/
def Piece.unplaced (piece : Piece) : Located :=
  { finding := piece.finding, lexeme := String.ofList piece.lexeme, span := .unknown }

theorem locate_unplaced (place : Place) (pieces : List Piece) :
    (locate place pieces).map (Located.mapSpan fun _ => .unknown) = pieces.map Piece.unplaced := by
  induction pieces generalizing place with
  | nil => rfl
  | cons piece others ih =>
    rw [locate, List.map_cons, List.map_cons, ih]
    rfl

/-- What does not depend on spans can be read off the pieces. -/
theorem map_locate {α : Type} {read : Located → α}
    (placeless : ∀ located : Located, read (located.mapSpan fun _ => .unknown) = read located)
    (place : Place) (pieces : List Piece) :
    (locate place pieces).map read = pieces.map fun piece => read piece.unplaced := by
  have unplaced := congrArg (List.map read) (locate_unplaced place pieces)
  rw [List.map_map, List.map_map] at unplaced
  have same : read ∘ Located.mapSpan (fun _ => .unknown) = read := funext placeless
  rwa [same] at unplaced

end ScriptLexer
