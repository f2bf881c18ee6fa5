import Mathlib.Data.List.Sort
import ScriptLexer.Proofs.Spans

/-!
# Adjacency of operators

The only thing that lexemes take over from those before them is the latest token that is not trivia,
and it matters to the first such token of theirs alone: if both are operators, the second may be
misplaced.
-/
namespace ScriptLexer

/-- The error about `token` directly behind `before`: both are operators, and the first forbids the
second. -/
def crossing (before token : Option Token) : Option LexicalError :=
  match before, token with
  | some before, some token =>
    if before.kind = .operator ∧ token.kind = .operator ∧
        clashes before.lexeme token.lexeme = true then
      some (LexicalError.ofCause (.operatorSequence before.lexeme) token.lexeme token.span)
    else
      none
  | _, _ => none

/-- Adds an error in the order of the text. -/
def insertError (errors : List LexicalError) : Option LexicalError → List LexicalError
  | some error =>
    errors.orderedInsert (fun first second => first.span.start ≤ second.span.start) error
  | none => errors

/-- The first token that is not trivia. -/
def firstMeaningful (tokens : List Token) : Option Token :=
  tokens.find? fun token => !token.kind.isTrivia

/-- The last token that is not trivia. -/
def lastMeaningful (tokens : List Token) : Option Token := firstMeaningful tokens.reverse

/-- The records of both, and the one error that only shows where the second follows the first. -/
def Lexing.followedBy (first second : Lexing) : Lexing :=
  { tokens := first.tokens ++ second.tokens
    errors := first.errors ++ insertError second.errors
      (crossing (lastMeaningful first.tokens) (firstMeaningful second.tokens)) }

theorem insertError_append {front back : List LexicalError} {error : Option LexicalError}
    (before : ∀ one ∈ error, ∀ other ∈ front, other.span.start < one.span.start) :
    insertError (front ++ back) error = front ++ insertError back error := by
  cases error with
  | none => rfl
  | some error =>
    induction front with
    | nil => rfl
    | cons first others ih =>
      have here := before error rfl first (by simp)
      have later := ih fun one isError other member =>
        before one isError other (List.mem_cons_of_mem _ member)
      have noLe : ¬ error.span.start ≤ first.span.start := by omega
      rw [insertError, List.cons_append, List.orderedInsert_cons, if_neg noLe,
        List.cons_append, ← later]
      rfl

theorem insertError_front {errors : List LexicalError} {error : LexicalError}
    (before : ∀ other ∈ errors, error.span.start ≤ other.span.start) :
    insertError errors (some error) = error :: errors := by
  cases errors with
  | nil => rfl
  | cons first others =>
    rw [insertError, List.orderedInsert_cons, if_pos (before first (by simp))]

theorem crossing_none (token : Option Token) : crossing none token = none := by
  cases token <;> rfl

/-- The error lies on the second token. -/
theorem span_of_mem_crossing {before token : Option Token} {error : LexicalError}
    (member : error ∈ crossing before token) : ∃ second ∈ token, error.span = second.span := by
  unfold crossing at member
  split at member
  · split at member
    · obtain rfl := Option.some.inj member
      exact ⟨_, rfl, rfl⟩
    · cases member
  · cases member

namespace Located

variable {options : LexingOptions} {located : Located}

/-- Only an operator looks back. -/
theorem errors_of_ne_operator (noOperator : located.finding ≠ .token .operator)
    (previous : Option Token) : located.errors options previous = located.errors options none := by
  unfold errors
  split
  · contradiction
  · rfl
  · rfl
  · rfl

theorem clashing_some (before : Token) (lexeme : String) : clashing (some before) lexeme =
    if before.kind = .operator ∧ clashes before.lexeme lexeme = true then some before
    else none := by
  unfold clashing
  by_cases also : before.kind = .operator
  · simp [Option.filter_some, also]
  · simp [Option.filter_some, also]

/-- The error of a token that is not trivia is the one about what it follows. -/
theorem errors_of_meaningful {token : Token} (found : located.token? = some token)
    (meaningful : token.kind.isTrivia = false) (previous : Option Token) :
    located.errors options previous = (crossing previous (some token)).toList := by
  obtain ⟨finding, lexeme, span⟩ := located
  cases finding with
  | token kind =>
    obtain rfl := Option.some.inj found
    by_cases operator : kind = .operator
    · subst operator
      cases previous with
      | none => rfl
      | some before =>
        unfold errors crossing
        by_cases forbids : before.kind = .operator ∧ clashes before.lexeme lexeme = true
        · simp only [clashing_some, true_and, if_pos forbids]
          rfl
        · simp only [clashing_some, true_and, if_neg forbids]
          rfl
    · rw [errors_of_ne_operator (by simpa using operator)]
      have sound : errors options none ⟨.token kind, lexeme, span⟩ = [] := by
        cases kind <;> rfl
      rw [sound]
      cases previous <;> simp [crossing, operator]
  | openComment =>
    obtain rfl := Option.some.inj found
    cases meaningful
  | error cause => cases found

theorem latest_eq (previous : Option Token) (located : Located) :
    located.latest previous = (firstMeaningful located.token?.toList).or previous := by
  unfold latest firstMeaningful
  cases located.token? with
  | none => rfl
  | some token => cases trivia : token.kind.isTrivia <;> simp [trivia]

/-- A lexeme without a meaningful token is no operator. -/
theorem ne_operator_of_skipped (skipped : firstMeaningful located.token?.toList = none) :
    located.finding ≠ .token .operator := by
  intro operator
  rw [token?, operator] at skipped
  cases skipped

end Located

/-! ## Behind other lexemes -/

theorem firstMeaningful_append (before after : List Token) :
    firstMeaningful (before ++ after) = (firstMeaningful before).or (firstMeaningful after) :=
  List.find?_append

theorem latestOf_eq (previous : Option Token) (located : List Located) :
    latestOf previous located = (lastMeaningful (tokensOf located)).or previous := by
  induction located generalizing previous with
  | nil => rfl
  | cons first others ih =>
    have reversed : first.token?.toList.reverse = first.token?.toList := by
      cases first.token? <;> rfl
    have step : latestOf previous (first :: others) = latestOf (first.latest previous) others := rfl
    rw [step, ih, tokensOf_cons, lastMeaningful, lastMeaningful, List.reverse_append, reversed,
      firstMeaningful_append, Located.latest_eq, Option.or_assoc]

section Previous

variable (options : LexingOptions) (previous : Option Token) {first : Located}
  {others : List Located}

/-- A meaningful token is all that later lexemes see. -/
theorem errorsOf_meaningful {token : Token}
    (found : firstMeaningful first.token?.toList = some token) :
    errorsOf options previous (first :: others) =
      (crossing previous (some token)).toList ++ errorsOf options (some token) others := by
  have own : first.token? = some token := by
    simpa using List.mem_of_find?_eq_some found
  have meaningful : token.kind.isTrivia = false := by
    simpa using List.find?_some found
  rw [errorsOf, Located.latest_eq, found, Option.some_or,
    Located.errors_of_meaningful own meaningful]

/-- Trivia and what is spoiled are looked past. -/
theorem errorsOf_skipped (skipped : firstMeaningful first.token?.toList = none) :
    errorsOf options previous (first :: others) =
      first.errors options none ++ errorsOf options previous others := by
  rw [errorsOf, Located.latest_eq, skipped, Option.none_or,
    Located.errors_of_ne_operator (Located.ne_operator_of_skipped skipped)]

variable {located : List Located}

/-- Behind another token the errors are those of the lexemes on their own, and at most one more. -/
theorem errorsOf_previous
    (ordered : located.Pairwise fun first second => first.span.Precedes second.span) :
    errorsOf options previous located =
      insertError (errorsOf options none located)
        (crossing previous (firstMeaningful (tokensOf located))) := by
  induction located with
  | nil => cases previous <;> rfl
  | cons first others ih =>
    obtain ⟨precedes, rest⟩ := List.pairwise_cons.mp ordered
    rw [tokensOf_cons, firstMeaningful_append]
    cases found : firstMeaningful first.token?.toList with
    | some token =>
      rw [errorsOf_meaningful options previous found, errorsOf_meaningful options none found,
        crossing_none, Option.toList_none, List.nil_append, Option.some_or]
      cases crosses : crossing previous (some token) with
      | none => rfl
      | some error =>
        rw [insertError_front, Option.toList_some, List.singleton_append]
        intro other member
        obtain ⟨second, same, onToken⟩ := span_of_mem_crossing (Option.mem_def.mpr crosses)
        obtain rfl := Option.some.inj same
        have own : first.token? = some token := by
          simpa using List.mem_of_find?_eq_some found
        obtain ⟨one, among, latest, isError⟩ := exists_of_mem_errorsOf member
        have behind := (precedes one among).1
        rw [onToken, (Located.of_token? own).2, (Located.span_of_mem_errors isError).2]
        exact Nat.le_of_lt behind
    | none =>
      rw [errorsOf_skipped options previous found, errorsOf_skipped options none found, ih rest,
        Option.none_or, insertError_append]
      intro error crosses other member
      obtain ⟨second, isNext, onToken⟩ := span_of_mem_crossing crosses
      obtain ⟨one, among, isToken⟩ := exists_of_mem_tokensOf (List.mem_of_find?_eq_some isNext)
      have behind := (precedes one among).1
      rw [onToken, (Located.of_token? isToken).2, (Located.span_of_mem_errors member).2]
      exact behind

/-- The records of lexemes behind others are those of both, and at most one error more. -/
theorem records_append (before : List Located)
    (ordered : located.Pairwise fun first second => first.span.Precedes second.span) :
    { tokens := tokensOf (before ++ located)
      errors := errorsOf options none (before ++ located) } =
      Lexing.followedBy { tokens := tokensOf before, errors := errorsOf options none before }
        { tokens := tokensOf located, errors := errorsOf options none located } := by
  rw [tokensOf_append, errorsOf_append, errorsOf_previous options _ ordered,
    latestOf_eq, Option.or_none]
  rfl

end Previous

end ScriptLexer
