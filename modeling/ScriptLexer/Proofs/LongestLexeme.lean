import ScriptLexer.Proofs.Spans
import ScriptLexer.Proofs.TokenLanguages

/-!
# The longest lexeme

A token takes as much of the text as it can: of all leading parts of what lies ahead, its lexeme is
the longest that is a lexeme on its own. What ends a lexeme is the one character behind it, and a
longer leading part begins with that character behind the same lexeme.
-/
namespace ScriptLexer

/-- The text, lexed alone, is one token from its first character to its last, and no error. -/
def IsLexeme (text : String) : Prop :=
  ∃ token, lexText {} text = .ok { tokens := [token], errors := [] } ∧
    token.span.start = 0 ∧ token.span.stop = text.utf8ByteSize

/-- The lexeme is the longest leading part of the text that is a lexeme. -/
structure LongestLexeme (lexeme : String) (ahead : List Char) : Prop where
  leads : lexeme.toList <+: ahead
  isLexeme : IsLexeme lexeme
  longest : ∀ longer, longer <+: ahead → lexeme.length < longer.length →
    ¬ IsLexeme (String.ofList longer)

/-- A lexeme is not ended by more than the character behind it. -/
theorem Stands.of_prefix {finding : Finding} {lexeme rest more : List Char}
    (stands : Stands finding lexeme rest) (leads : more <+: rest) : Stands finding lexeme more := by
  refine ⟨stands.form, ?_⟩
  cases more with
  | nil => exact Finding.ends_none finding lexeme
  | cons c others =>
    obtain ⟨back, rfl⟩ := leads
    exact stands.ends

/-- What a token may be made of is a lexeme. -/
theorem isLexeme_of_form {finding : Finding} {kind : Token.Kind}
    (isKind : finding.kind? = some kind) {text : String} (form : finding.Form text.toList)
    (short : text.length + 1 < counterLimit) : IsLexeme text := by
  have sound : Located.errors {} none { finding, lexeme := text, span := .whole text } = [] := by
    cases finding with
    | token kind => cases kind <;> rfl
    | openComment => rfl
    | error cause => cases isKind
  refine ⟨{ kind, lexeme := text, span := .whole text }, ?_, rfl, rfl⟩
  rw [lexText_of_form {} short form, sound, Located.token?_eq, isKind]
  rfl

/-- A text that goes on behind a token is not one lexeme. -/
theorem not_isLexeme_append {finding : Finding} {kind : Token.Kind}
    (isKind : finding.kind? = some kind) {lexeme more : List Char}
    (stands : Stands finding lexeme more) (nonempty : more ≠ [])
    (short : (lexeme ++ more).length + 1 < counterLimit) :
    ¬ IsLexeme (String.ofList (lexeme ++ more)) := by
  rintro ⟨token, lexed, _, stop⟩
  obtain ⟨pieces, tail, rfl, rest⟩ := exists_division more
  have divides : Divides ({ gap := [], lexeme, finding } :: pieces) tail := ⟨by simp, stands, rest⟩
  have same : (String.ofList (lexeme ++ textOf pieces tail)).toList =
      textOf ({ gap := [], lexeme, finding } :: pieces) tail := by
    rw [String.toList_ofList, textOf_cons, List.nil_append]
  have found := (lexText_yields {} divides same).eq_ok (by rwa [String.length_ofList])
  rw [found, Except.ok.injEq, Lexing.ofPieces, Lexing.mk.injEq, locate, tokensOf_cons,
    Located.token?_eq, isKind, Option.map_some, Option.toList_some, List.singleton_append,
    List.cons.injEq] at lexed
  obtain ⟨⟨rfl, _⟩, _⟩ := lexed
  have positive := Text.byteLength_pos nonempty
  rw [← Text.byteLength_eq_utf8ByteSize, Text.byteLength_append] at stop
  simp only [Span.between, Place.past_nil, Place.position_past] at stop
  omega

theorem longestLexeme_of_stands {finding : Finding} {kind : Token.Kind}
    (isKind : finding.kind? = some kind) {lexeme : String} {rest : List Char}
    (stands : Stands finding lexeme.toList rest)
    (short : (lexeme.toList ++ rest).length + 1 < counterLimit) :
    LongestLexeme lexeme (lexeme.toList ++ rest) := by
  constructor
  case leads => exact List.prefix_append _ _
  case isLexeme =>
    refine isLexeme_of_form isKind stands.form ?_
    rw [List.length_append, String.length_toList] at short
    omega
  case longest =>
    intro longer leads longerThan
    rw [← String.length_toList] at longerThan
    obtain ⟨more, rfl⟩ := List.prefix_of_prefix_length_le (List.prefix_append _ rest) leads
      (Nat.le_of_lt longerThan)
    have moreLeads : more <+: rest := (List.prefix_append_right_inj _).mp leads
    have fewer := leads.length_le
    refine not_isLexeme_append isKind (stands.of_prefix moreLeads) ?_ (by omega)
    rintro rfl
    simp at longerThan

/-- Every token has the longest lexeme that stands where it starts. -/
theorem lexText_longest (options : LexingOptions) {source : String}
    (short : source.length + 1 < counterLimit) :
    ∃ lexing, lexText options source = .ok lexing ∧ ∀ token ∈ lexing.tokens, ∃ ahead,
      Text.dropBytes token.span.start source.toList = some ahead ∧
        LongestLexeme token.lexeme ahead := by
  obtain ⟨pieces, tail, same, divides⟩ := exists_division source.toList
  refine ⟨_, (lexText_yields options divides same.symm).eq_ok short, ?_⟩
  intro token among
  obtain ⟨located, member, found⟩ := exists_of_mem_tokensOf among
  obtain ⟨lexeme, span⟩ := Located.of_token? found
  obtain ⟨front, back, split, start, _, stands⟩ := exists_around divides member
  rw [same] at split
  rw [lexeme, span]
  refine ⟨located.lexeme.toList ++ back,
    Text.dropBytes_eq_some_iff.mpr ⟨front, split, start.symm⟩, ?_⟩
  apply longestLexeme_of_stands (Located.kind?_of_token? found) stands
  rw [← String.length_toList, split, List.length_append] at short
  omega

/-- A number with its exponent does not go on with another point. -/
theorem lexText_longest_exponent : LongestLexeme "5e1" "5e1.5".toList := by
  obtain ⟨lexing, lexed, longest⟩ := @lexText_longest {} "5e1.5" (by decide)
  have found : lexText {} "5e1.5" = .ok
      { tokens := [⟨.double, "5e1", ⟨0, 3, 1, 1⟩⟩, ⟨.double, ".5", ⟨3, 5, 1, 4⟩⟩]
        errors := [] } := by
    decide +kernel
  obtain rfl := Except.ok.inj (found.symm.trans lexed)
  obtain ⟨ahead, dropped, isLongest⟩ := longest ⟨.double, "5e1", ⟨0, 3, 1, 1⟩⟩ (by simp)
  obtain rfl := Option.some.inj ((Text.dropBytes_zero _).symm.trans dropped)
  exact isLongest

end ScriptLexer
