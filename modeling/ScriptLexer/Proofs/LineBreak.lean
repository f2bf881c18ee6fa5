import ScriptLexer.Proofs.Adjacency
import ScriptLexer.Proofs.Grammar.Separator
import ScriptLexer.Proofs.Run
import ScriptLexer.Proofs.Shift

/-!
# Line by line

A text can be lexed up to a line break and from that line break on. The records of the second part
are those it has alone, shifted behind the first; only the operator that the first part ends with
can add an error to them. What goes on over line breaks is excluded: a comment that is never closed,
and a backslash that would escape the line break.
-/
namespace ScriptLexer

open Grammar

namespace Lexing

def mapSpan (f : Span → Span) (lexing : Lexing) : Lexing :=
  { tokens := lexing.tokens.map (Token.mapSpan f)
    errors := lexing.errors.map (LexicalError.mapSpan f) }

/-- The last token is a comment that is never closed. -/
def EndsInOpenComment (lexing : Lexing) : Prop :=
  ∃ token ∈ lexing.tokens.getLast?, token.kind = .blockComment ∧ IsOpenComment token.lexeme.toList

/-- The last error is a string that ends in a backslash with nothing to escape. -/
def EndsInDanglingString (lexing : Lexing) : Prop :=
  ∃ error ∈ lexing.errors.getLast?, error.code = .unterminatedString ∧
    IsDanglingString error.lexeme.toList

end Lexing

/-! ## Joining divisions -/

section Join

variable {before after : List Piece} {tail last : List Char} {piece : Piece}

/-- The blanks between go before the first lexeme of the second text. -/
theorem textOf_join : textOf (before ++ { piece with gap := tail ++ piece.gap } :: after) last =
    textOf before tail ++ textOf (piece :: after) last := by
  rw [textOf_append, textOf_cons, textOf_cons, ← textOf_tail, List.append_assoc]

/-- A division of one text goes on with that of another, when its last lexeme stays what it is. -/
theorem Divides.join (divides : Divides before tail) (later : Divides (piece :: after) last)
    (ends : tail = [] → ∀ final ∈ before.getLast?,
      final.finding.Ends final.lexeme (textOf (piece :: after) last).head?) :
    Divides (before ++ { piece with gap := tail ++ piece.gap } :: after) last := by
  induction before with
  | nil =>
    obtain ⟨blank, stands, rest⟩ := later
    refine ⟨?_, stands, rest⟩
    intro c member
    rcases List.mem_append.mp member with inTail | inGap
    · exact divides c inTail
    · exact blank c inGap
  | cons first others ih =>
    obtain ⟨blank, stands, rest⟩ := divides
    have endsLater : tail = [] → ∀ final ∈ others.getLast?,
        final.finding.Ends final.lexeme (textOf (piece :: after) last).head? := by
      intro noTail final member
      exact ends noTail final (List.mem_getLast?_cons member)
    rw [List.cons_append]
    refine ⟨blank, ⟨stands.form, ?_⟩, ih rest endsLater⟩
    rw [textOf_join]
    cases between : textOf others tail with
    | nil =>
      obtain rfl : others = [] := rest.eq_nil_of_textOf between
      exact ends between first rfl
    | cons c more =>
      have unchanged := stands.ends
      rw [between] at unchanged
      exact unchanged

/-- The pieces of the second text are located where they were, shifted behind the first. -/
theorem locate_join : locate {} (before ++ { piece with gap := tail ++ piece.gap } :: after) =
    locate {} before ++ (locate {} (piece :: after)).map
      (Located.mapSpan (Shift.behind (textOf before tail)).span) := by
  have behind : locate (({} : Place).past (textOf before []))
        ({ piece with gap := tail ++ piece.gap } :: after) =
      locate (({} : Place).past (textOf before tail)) (piece :: after) := by
    have whole : textOf before tail = textOf before [] ++ tail := by
      rw [← textOf_tail, List.nil_append]
    rw [whole, Place.past_append, locate, locate, Place.past_append]
  rw [locate_append, behind, Shift.past_eq, Shift.locate_place _ (Nat.le_refl 1)]

end Join

/-! ## The end of the first text -/

variable (options : LexingOptions)

/-- What the last lexeme is shows in the last records, and a line break may stand behind it. -/
theorem admits_lineBreak_ofPieces {pieces : List Piece} (divides : Divides pieces [])
    (noBreak : (textOf pieces []).getLast? ≠ some '\n')
    (noComment : ¬ (Lexing.ofPieces options pieces).EndsInOpenComment)
    (noString : ¬ (Lexing.ofPieces options pieces).EndsInDanglingString) {final : Piece}
    (isLast : final ∈ pieces.getLast?) : final.finding.Admits final.lexeme '\n' := by
  obtain ⟨others, rfl⟩ := List.getLast?_eq_some_iff.mp (Option.mem_def.mp isLast)
  have form := divides.form final (by simp)
  obtain ⟨located, isFinal, finding, lexeme⟩ : ∃ located : Located,
      locate {} (others ++ [final]) = locate {} others ++ [located] ∧
        located.finding = final.finding ∧ located.lexeme = String.ofList final.lexeme :=
    ⟨_, locate_append _ _ _, rfl, rfl⟩
  refine Finding.admits_lineBreak form ?_ ?_ ?_
  · intro newline
    rw [newline] at form
    obtain ⟨nonempty, breaks⟩ := form
    obtain ⟨front, c, same⟩ : ∃ front c, final.lexeme = front ++ [c] :=
      ⟨_, _, (List.dropLast_append_getLast nonempty).symm⟩
    have isBreak := breaks c (by simp [same])
    rw [textOf_append, textOf_cons, same, isBreak] at noBreak
    exact noBreak (by simp [textOf])
  · intro comment
    rw [comment] at form
    refine noComment ⟨⟨.blockComment, located.lexeme, located.span⟩, ?_, rfl, ?_⟩
    · have found : located.token? = some ⟨.blockComment, located.lexeme, located.span⟩ := by
        rw [Located.token?, finding, comment]
      unfold Lexing.ofPieces
      rw [isFinal, tokensOf_append, tokensOf_cons, found]
      simp [tokensOf]
    · rw [lexeme, String.toList_ofList]
      exact form
  · intro quote spoiled dangling
    refine noString ⟨LexicalError.ofCause (.openString quote) located.lexeme located.span, ?_, rfl,
      ?_⟩
    · have error : ∀ previous, located.errors options previous =
          [LexicalError.ofCause (.openString quote) located.lexeme located.span] := by
        intro previous
        rw [Located.errors, finding, spoiled]
      unfold Lexing.ofPieces
      rw [isFinal, errorsOf_append, errorsOf, error]
      simp [errorsOf]
    · rw [LexicalError.ofCause, lexeme, String.toList_ofList]
      exact dangling

/-- A text with a line break in it has the records of what stands before the line break, and behind
them those of the rest. -/
theorem lexText_lineBreak (options : LexingOptions) {a b : String}
    (short : a.length + b.length + 2 < counterLimit) :
    ∃ first second, lexText options a = .ok first ∧ lexText options ("\n" ++ b) = .ok second ∧
      (a.toList.getLast? ≠ some '\n' → ¬ first.EndsInOpenComment → ¬ first.EndsInDanglingString →
        lexText options (a ++ "\n" ++ b) =
          .ok (first.followedBy (second.mapSpan (Shift.behind a.toList).span))) := by
  obtain ⟨before, tail, sameA, dividesA⟩ := exists_division a.toList
  obtain ⟨pieces, last, sameB, dividesB⟩ := exists_division ("\n" ++ b).toList
  have first := (lexText_yields options dividesA sameA.symm).eq_ok (by omega)
  have lengthB : ("\n" ++ b).length = b.length + 1 := by
    rw [String.length_append, Nat.add_comm]
    rfl
  have second := (lexText_yields options dividesB sameB.symm).eq_ok (by omega)
  refine ⟨_, _, first, second, ?_⟩
  intro noBreak noComment noString
  cases pieces with
  | nil =>
    have blank := dividesB '\n' (by rw [← textOf_nil last, sameB]; simp)
    cases blank
  | cons piece after =>
    have ends : tail = [] → ∀ final ∈ before.getLast?,
        final.finding.Ends final.lexeme (textOf (piece :: after) last).head? := by
      rintro rfl final isLast
      rw [← sameA] at noBreak
      have head : (textOf (piece :: after) last).head? = some '\n' := by
        rw [sameB]
        simp
      rw [head, Finding.ends_some]
      exact admits_lineBreak_ofPieces options dividesA noBreak noComment noString isLast
    have joined := dividesA.join dividesB ends
    have same : (a ++ "\n" ++ b).toList =
        textOf (before ++ { piece with gap := tail ++ piece.gap } :: after) last := by
      rw [textOf_join, sameA, sameB]
      simp
    have lexed := (lexText_yields options joined same).eq_ok
      (by rw [String.append_assoc, String.length_append, lengthB]; omega)
    have ordered := @locate_pairwise {} _ _ joined
    rw [locate_join] at ordered
    rw [lexed, Lexing.ofPieces, locate_join,
      records_append options (locate {} before) (List.pairwise_append.mp ordered).2.1,
      tokensOf_mapSpan, sameA]
    have errors := errorsOf_mapSpan (Shift.behind a.toList).span options none
      (locate {} (piece :: after))
    rw [Option.map_none] at errors
    rw [errors]
    rfl

/-- The assignment before the line break forbids the one behind it. -/
theorem lexText_lineBreak_assignments :
    lexText {} "=\n=" = .ok {
      tokens := [⟨.operator, "=", ⟨0, 1, 1, 1⟩⟩, ⟨.newline, "\n", ⟨1, 2, 1, 2⟩⟩,
        ⟨.operator, "=", ⟨2, 3, 2, 1⟩⟩]
      errors := [LexicalError.ofCause (.operatorSequence "=") "=" ⟨2, 3, 2, 1⟩] } := by
  obtain ⟨first, second, lexed, alsoLexed, joined⟩ := @lexText_lineBreak {} "=" "=" (by decide)
  have found : lexText {} "=" =
      .ok { tokens := [⟨.operator, "=", ⟨0, 1, 1, 1⟩⟩], errors := [] } := by
    decide
  have alsoFound : lexText {} ("\n" ++ "=") = .ok
      { tokens := [⟨.newline, "\n", ⟨0, 1, 1, 1⟩⟩, ⟨.operator, "=", ⟨1, 2, 2, 1⟩⟩]
        errors := [] } := by
    decide
  obtain rfl := Except.ok.inj (found.symm.trans lexed)
  obtain rfl := Except.ok.inj (alsoFound.symm.trans alsoLexed)
  have whole := joined (by decide) (by simp [Lexing.EndsInOpenComment])
    (by simp [Lexing.EndsInDanglingString])
  exact whole.trans (by decide)

end ScriptLexer
