import Mathlib.Data.List.Induction
import ScriptLexer.Proofs.Adjacency
import ScriptLexer.Proofs.Run

/-!
# Operator sequences

Which operators are reported as misplaced follows from the tokens alone: an operator is, exactly
where the nearest token before it that is not trivia is an operator that forbids it. What is spoiled
leaves no token, so it neither hides an operator from the next one nor is it misplaced itself.
-/
namespace ScriptLexer

/-- Operators, and the operators that none of them may be directly followed by. -/
def forbiddenSequences : List (List String × List String) := [
  (["+=", "-=", "*=", "/=", "="],
    ["+=", "-=", "*=", "/=", "==", "!=", "<=", ">=", "=", ":", "%", "/", "*"]),
  (["==", "!=", "<=", ">=", "<", ">"],
    ["+=", "-=", "*=", "/=", "==", "!=", "<=", ">=", "=", ":", "<", ">"]),
  (["+", "*", "/", "%"],
    ["+=", "-=", "*=", "/=", "==", "!=", "<=", ">=", "=", ":"]),
  ([":"],
    ["+=", "-=", "*=", "/=", "==", "!=", "<=", ">=", "=", ":", "+", "*", "/", "%", "<", ">"])]

def Forbids (previous next : String) : Prop :=
  ∃ sequences ∈ forbiddenSequences, previous ∈ sequences.1 ∧ next ∈ sequences.2

instance (previous next : String) : Decidable (Forbids previous next) :=
  inferInstanceAs (Decidable (∃ sequences ∈ forbiddenSequences, _))

/-- The two operators, when the token is one directly behind another one that forbids it. -/
def misplacement (previous : Option Token) (token : Token) : Option (Token × Token) :=
  match previous with
  | some previous =>
    if previous.kind = .operator ∧ token.kind = .operator ∧
        Forbids previous.lexeme token.lexeme then
      some (previous, token)
    else
      none
  | none => none

/-- The misplaced operators in order, each behind the one that forbids it: of the tokens before it,
the nearest that is not trivia. -/
def misplacements (tokens : List Token) : List (Token × Token) :=
  tokens.zipIdx.filterMap fun (token, index) =>
    misplacement (lastMeaningful (tokens.take index)) token

/-- The error about an operator directly behind another one. -/
def sequenceError (previous token : Token) : LexicalError :=
  { code := .operatorSequence
    message := "Invalid operator sequence: '" ++ previous.lexeme ++ "' cannot be followed by '" ++
      token.lexeme ++ "'"
    lexeme := token.lexeme
    span := token.span }

def LexicalError.isSequence (error : LexicalError) : Bool := decide (error.code = .operatorSequence)

/-- The classes of operators are the rows of the table. -/
theorem clashes_iff (previous next : String) :
    clashes previous next = true ↔ Forbids previous next := by
  have rows :
      forbiddenSequences = OperatorClass.all.map fun cls => (cls.members, cls.excluded) := rfl
  have own : ∀ cls ∈ OperatorClass.all, ∀ member ∈ cls.members,
      OperatorClass.of? member = some cls := by
    decide
  unfold clashes Forbids
  rw [rows]
  constructor
  · intro clash
    split at clash
    case h_1 cls found =>
      have listed : cls ∈ OperatorClass.all := List.mem_of_find?_eq_some found
      have member := List.find?_some found
      refine ⟨(cls.members, cls.excluded), List.mem_map_of_mem listed, ?_, ?_⟩
      · simpa using member
      · simpa using clash
    case h_2 => cases clash
  · rintro ⟨sequences, row, member, excluded⟩
    obtain ⟨cls, listed, rfl⟩ := List.mem_map.mp row
    rw [own cls listed previous member]
    simpa using excluded

theorem crossing_eq (previous : Option Token) (token : Token) : crossing previous (some token) =
    (misplacement previous token).map fun pair => sequenceError pair.1 pair.2 := by
  cases previous with
  | none => rfl
  | some previous =>
    unfold crossing misplacement
    simp only [clashes_iff]
    split
    · rfl
    · rfl

theorem misplacements_append (tokens : List Token) (token : Token) :
    misplacements (tokens ++ [token]) =
      misplacements tokens ++ (misplacement (lastMeaningful tokens) token).toList := by
  have before : tokens.zipIdx.filterMap (fun (one, index) =>
        misplacement (lastMeaningful ((tokens ++ [token]).take index)) one) =
        misplacements tokens := by
    apply List.filterMap_congr
    rintro ⟨one, index⟩ member
    have inside : index < tokens.length := (List.mem_zipIdx' member).1
    simp only [List.take_append_of_le_length (Nat.le_of_lt inside)]
  have here : (tokens ++ [token]).take tokens.length = tokens := List.take_left
  rw [misplacements, List.zipIdx_append, List.filterMap_append, before]
  congr 1
  cases misplaced : misplacement (lastMeaningful tokens) token <;> simp [here, misplaced]

/-- Trivia is neither misplaced nor forbids anything. -/
theorem misplacement_trivia {token : Token} (trivia : token.kind.isTrivia = true)
    (previous : Option Token) : misplacement previous token = none := by
  have noOperator : token.kind ≠ .operator := by
    intro operator
    rw [operator] at trivia
    cases trivia
  cases previous <;> simp [misplacement, noOperator]

namespace Located

variable {options : LexingOptions} {located : Located}

/-- Of the errors of one lexeme, the one about an operator sequence follows from its token. -/
theorem filter_errors (form : located.finding.Form located.lexeme.toList)
    (previous : Option Token) :
    (located.errors options previous).filter LexicalError.isSequence =
      (located.token?.toList.filterMap (misplacement previous)).map fun pair =>
        sequenceError pair.1 pair.2 := by
  cases found : located.token? with
  | none =>
    obtain ⟨cause, spoiled⟩ := exists_cause_of_token?_eq_none found
    rw [spoiled] at form
    rw [errors, spoiled]
    cases cause with
    | operatorSequence before => exact absurd form id
    | _ => rfl
  | some token =>
    cases trivia : token.kind.isTrivia with
    | false =>
      rw [errors_of_meaningful found trivia, crossing_eq]
      cases misplaced : misplacement previous token <;>
        simp [misplaced, sequenceError, LexicalError.isSequence]
    | true =>
      have silent : (located.errors options previous).filter LexicalError.isSequence = [] := by
        rw [errors_of_ne_operator
          (ne_operator_of_skipped (by simp [found, firstMeaningful, trivia]))]
        unfold errors
        split
        · rfl
        · rfl
        · split <;> rfl
        case h_4 cause spoiled => simp [token?, spoiled] at found
      rw [silent]
      simp [misplacement_trivia trivia]

end Located

/-- Of the errors of all lexemes, those about operator sequences follow from their tokens. -/
theorem filter_errorsOf (options : LexingOptions) {located : List Located}
    (forms : ∀ one ∈ located, one.finding.Form one.lexeme.toList) :
    (errorsOf options none located).filter LexicalError.isSequence =
      (misplacements (tokensOf located)).map fun pair => sequenceError pair.1 pair.2 := by
  induction located using List.reverseRecOn with
  | nil => rfl
  | append_singleton located last ih =>
    have earlier := ih fun one member => forms one (List.mem_append_left _ member)
    have own := @Located.filter_errors options last (forms last (by simp)) (latestOf none located)
    have tokens : tokensOf (located ++ [last]) = tokensOf located ++ last.token?.toList := by
      rw [tokensOf_append, tokensOf_cons]
      simp [tokensOf]
    rw [errorsOf_append, errorsOf, errorsOf, List.append_nil, List.filter_append,
      earlier, own, tokens, latestOf_eq, Option.or_none]
    cases last.token? with
    | none => simp
    | some token =>
      rw [Option.toList_some, misplacements_append, List.map_append]
      cases misplaced : misplacement (lastMeaningful (tokensOf located)) token <;> simp [misplaced]

/-- Exactly the misplaced operators among the tokens are reported as such, in their order, whatever
is reported besides. -/
theorem lexText_operatorSequences (options : LexingOptions) (source : String) :
    (∃ lexing, lexText options source = .ok lexing ∧
      lexing.errors.filter LexicalError.isSequence =
        (misplacements lexing.tokens).map fun pair => sequenceError pair.1 pair.2) ∨
      (lexText options source = .error .counterOverflow ∧ counterLimit ≤ source.length + 1) := by
  obtain ⟨pieces, tail, same, divides⟩ := exists_division source.toList
  rcases lexText_yields options divides same.symm with done | failed
  · exact .inl ⟨_, done, filter_errorsOf options divides.form_of_mem_locate⟩
  · exact .inr failed

/-- The character between the two assignments is reported and leaves no token. -/
example : (lexText {} "= @\n=").map (fun lexing => lexing.errors.map LexicalError.message) =
    .ok ["Unrecognized token '@'", "Invalid operator sequence: '=' cannot be followed by '='"] := by
  decide +kernel

end ScriptLexer
