import Mathlib.Data.List.Induction
import Mathlib.Data.List.Infix
import ScriptLexer.Proofs.Rules.Outcome

/-!
# The rule for comments

A comment is read in units: a delimiter, wherever one is met from left to right, or any other
character. The depth behind some units is how many delimiters open among them, less those that
close, counted from the one that opens the comment.
-/
namespace ScriptLexer

namespace Grammar

/-- The delimiters and the other characters of a text, read from left to right without overlap. -/
def commentUnits : List Char → List (List Char)
  | '<' :: '<' :: '<' :: rest => opening :: commentUnits rest
  | '>' :: '>' :: '>' :: rest => closing :: commentUnits rest
  | c :: rest => [c] :: commentUnits rest
  | [] => []

/-- The depth behind units of the body of a comment. -/
def depthBehind (units : List (List Char)) : Int := 1 + units.count opening - units.count closing

/-- The part of the body up to the first closing delimiter that brings the depth to zero. -/
def ClosesAfter (body inner : List Char) : Prop :=
  ∃ before, before ++ [closing] <+: commentUnits body ∧ inner = (before ++ [closing]).flatten ∧
    depthBehind (before ++ [closing]) = 0 ∧
    ∀ earlier, earlier ++ [closing] <+: before → depthBehind (earlier ++ [closing]) ≠ 0

/-! ## Units -/

theorem commentUnits_plain {c : Char} {rest : List Char}
    (noOpening : ∀ more, c = '<' → rest = '<' :: '<' :: more → False)
    (noClosing : ∀ more, c = '>' → rest = '>' :: '>' :: more → False) :
    commentUnits (c :: rest) = [c] :: commentUnits rest :=
  commentUnits.eq_3 c rest noOpening noClosing

theorem flatten_commentUnits (text : List Char) : (commentUnits text).flatten = text := by
  induction text using commentUnits.induct with
  | case1 rest ih => rw [commentUnits, List.flatten_cons, ih]; rfl
  | case2 rest ih => rw [commentUnits, List.flatten_cons, ih]; rfl
  | case3 c rest noOpening noClosing ih =>
    rw [commentUnits_plain noOpening noClosing, List.flatten_cons, ih]
    rfl
  | case4 => rfl

example : commentUnits "<<<<a>>>>".toList = [opening, ['<'], ['a'], closing, ['>']] := rfl

/-- What some units are made of reads as those units, whatever was behind them. -/
theorem commentUnits_flatten {text : List Char} {units : List (List Char)}
    (leads : units <+: commentUnits text) : commentUnits units.flatten = units := by
  induction text using commentUnits.induct generalizing units with
  | case1 rest ih =>
    rcases List.prefix_cons_iff.mp leads with rfl | ⟨others, rfl, behind⟩
    · rfl
    · exact congrArg (opening :: ·) (ih behind)
  | case2 rest ih =>
    rcases List.prefix_cons_iff.mp leads with rfl | ⟨others, rfl, behind⟩
    · rfl
    · exact congrArg (closing :: ·) (ih behind)
  | case3 c rest noOpening noClosing ih =>
    rw [commentUnits_plain noOpening noClosing] at leads
    rcases List.prefix_cons_iff.mp leads with rfl | ⟨others, rfl, behind⟩
    · rfl
    · obtain ⟨more, split⟩ := behind
      have text : others.flatten ++ more.flatten = rest := by
        rw [← List.flatten_append, split, flatten_commentUnits]
      rw [List.flatten_cons, List.singleton_append, commentUnits_plain, ih ⟨more, split⟩]
      · rintro tail rfl same
        exact noOpening (tail ++ more.flatten) rfl (by rw [← text, same]; rfl)
      · rintro tail rfl same
        exact noClosing (tail ++ more.flatten) rfl (by rw [← text, same]; rfl)
  | case4 =>
    rw [List.prefix_nil.mp leads]
    rfl

/-! ## Depths -/

/-- How a unit changes the depth. -/
def unitStep (unit : List Char) : Int :=
  if unit = opening then 1 else if unit = closing then -1 else 0

theorem depthSteps_eq_map (text : List Char) :
    depthSteps text = (commentUnits text).map unitStep := by
  induction text using commentUnits.induct with
  | case1 rest ih => rw [commentUnits, List.map_cons, ← ih]; rfl
  | case2 rest ih => rw [commentUnits, List.map_cons, ← ih]; rfl
  | case3 c rest noOpening noClosing ih =>
    have level : unitStep [c] = 0 := by simp [unitStep, opening, closing]
    rw [commentUnits_plain noOpening noClosing, depthSteps_plain noOpening noClosing,
      List.map_cons, ih, level]
  | case4 => rfl

theorem depthBehind_concat (units : List (List Char)) (unit : List Char) :
    depthBehind (units ++ [unit]) = depthBehind units + unitStep unit := by
  unfold depthBehind unitStep
  rw [List.count_append, List.count_append, List.count_singleton, List.count_singleton]
  by_cases opens : unit = opening
  · subst opens
    simp [opening, closing]
    omega
  · by_cases closes : unit = closing
    · subst closes
      simp [opening, closing]
      omega
    · simp [opens, closes]

/-- The depth inside the comment is one less than the depth that counts the comment itself. -/
theorem depthAfter_units (units : List (List Char)) :
    depthAfter 0 (units.map unitStep) = depthBehind units - 1 := by
  induction units using List.reverseRecOn with
  | nil => rfl
  | append_singleton units unit ih =>
    rw [depthBehind_concat, List.map_append, depthAfter, List.foldl_append]
    rw [depthAfter] at ih
    rw [ih]
    simp only [List.map_cons, List.map_nil, List.foldl_cons, List.foldl_nil]
    omega

/-- As long as no closing delimiter brings the depth to zero, it stays up. -/
theorem depthBehind_pos {units : List (List Char)}
    (noneCloses : ∀ earlier, earlier ++ [closing] <+: units →
      depthBehind (earlier ++ [closing]) ≠ 0) :
    ∀ front, front <+: units → 1 ≤ depthBehind front := by
  intro front
  induction front using List.reverseRecOn with
  | nil =>
    intro _
    decide
  | append_singleton front unit ih =>
    intro leads
    have up := ih ((List.prefix_append front [unit]).trans leads)
    have step := depthBehind_concat front unit
    by_cases closes : unit = closing
    · subst closes
      have nonzero := noneCloses front leads
      have down : unitStep closing = -1 := by decide
      omega
    · have level : 0 ≤ unitStep unit := by
        unfold unitStep
        rw [if_neg closes]
        split <;> decide
      omega

variable {body inner : List Char}

/-- The part up to the closing delimiter leads the body and drops below the depth of the comment. -/
theorem ClosesAfter.drops (closes : ClosesAfter body inner) :
    inner <+: body ∧ DropsAtEnd 0 (depthSteps inner) := by
  obtain ⟨before, leads, rfl, zero, first⟩ := closes
  constructor
  · obtain ⟨more, split⟩ := leads
    refine ⟨more.flatten, ?_⟩
    rw [← List.flatten_append, split, flatten_commentUnits]
  · rw [depthSteps_eq_map, commentUnits_flatten leads]
    refine ⟨by rw [depthAfter_units, zero]; decide, ?_⟩
    intro steps isFront short
    obtain ⟨front, among, rfl⟩ := List.prefix_map_iff.mp isFront
    rcases List.prefix_concat_iff.mp among with rfl | earlier
    · exact absurd rfl short
    · have up := depthBehind_pos first front earlier
      rw [depthAfter_units]
      omega

/-- A body that no delimiter closes stays at the depth of the comment. -/
theorem staysUp_of_not_closesAfter (stays : ∀ inner, ¬ ClosesAfter body inner) :
    StaysUp 0 (depthSteps body) := by
  have noneCloses : ∀ size earlier, earlier.length < size →
      earlier ++ [closing] <+: commentUnits body → depthBehind (earlier ++ [closing]) ≠ 0 := by
    intro size
    -- The first delimiter that brings the depth to zero would close the comment.
    induction size with
    | zero =>
      intro earlier shorter
      exact absurd shorter (Nat.not_lt_zero _)
    | succ size ih =>
      intro earlier bound leads zero
      refine stays _ ⟨earlier, leads, rfl, zero, ?_⟩
      intro sooner before
      have shorter := before.length_le
      rw [List.length_append, List.length_singleton] at shorter
      exact ih sooner (by omega) (before.trans ((List.prefix_append _ _).trans leads))
  intro steps isFront
  rw [depthSteps_eq_map] at isFront
  obtain ⟨front, leads, rfl⟩ := List.prefix_map_iff.mp isFront
  have up := depthBehind_pos (fun earlier => noneCloses _ earlier (Nat.lt_succ_self _)) front leads
  rw [depthAfter_units]
  omega

end Grammar

open Grammar

/-! ## Scanning by the rule -/

namespace Scanner

variable {options : LexingOptions} {source : String} {state : LexingState} {body : List Char}

/-- One token is recorded of whatever opens like a comment. Without a closing delimiter on the first
line it is a comment of that line. With one it goes on to the delimiter that brings the depth to
zero; where there is none it goes on to the end of the text, and that is an error only where it is
asked for. -/
theorem comment_rule (short : source.length + 1 < counterLimit)
    (reached : AtLexeme options source state)
    (ahead : state.cursor.remaining = .ok (opening ++ body)) :
    (¬ closing <:+: body.takeWhile (· != '\n') →
      Emits options .comment state (opening ++ body.takeWhile (· != '\n')) (.token .lineComment)) ∧
    (closing <:+: body.takeWhile (· != '\n') →
      (∀ inner, ClosesAfter body inner →
        Emits options .comment state (opening ++ inner) (.token .blockComment)) ∧
      ((∀ inner, ¬ ClosesAfter body inner) →
        Emits options .comment state (opening ++ body) {
          kinds := [.blockComment]
          reports :=
            if options.reportOpenComments then
              [(.unterminatedComment, "Unterminated multi-line comment (missing closing >>>)")]
            else
              [] })) := by
  obtain ⟨faces, _⟩ := reached.faces ahead
  have fits := faces.room.le_size
  have closed : ∀ other ∈ [Family.newlines], other.opens '<' = false := by decide
  refine ⟨?_, ?_⟩
  · intro noClosing
    obtain ⟨line, rest, rfl, inLine, stops⟩ := exists_run (· != '\n') body
    rw [Stops.takeWhile_append inLine stops] at noClosing ⊢
    have oneLine : '\n' ∉ line := fun member => by simpa using inLine _ member
    have ends : ∀ c ∈ rest.head?, c = '\n' := fun c next => by simpa using stops c next
    have reads := readComment_line rest oneLine noClosing ends
    rw [List.append_assoc] at reads
    have split := (List.append_assoc opening line rest).symm
    exact (passes_of_opens .comment _ rfl faces rfl closed split reads (by simp)).emits short
  · intro closes
    refine ⟨?_, ?_⟩
    · intro inner closesAfter
      obtain ⟨⟨rest, rfl⟩, drops⟩ := closesAfter.drops
      have own := closesOnFirstLine_of_append drops closes
      have reads := (readComment_closed rest own drops).eq_ok (by simp at fits ⊢; omega)
      rw [List.append_assoc] at reads
      have split := (List.append_assoc opening inner rest).symm
      exact (passes_of_opens .comment _ rfl faces rfl closed split reads (by simp)).emits short
    · intro stays
      have reads := (readComment_open closes (staysUp_of_not_closesAfter stays)).eq_ok (by omega)
      have split := (List.append_nil (opening ++ body)).symm
      exact (passes_of_opens .comment _ rfl faces rfl closed split reads (by simp)).emits short

/-- A comment that opens another one and closes it on its first line, and is closed on the second,
before a character more. -/
theorem comment_rule_nested :
    ∃ state, AtLexeme {} " <<<a<<<>>>\n>>>>" state ∧
      state.cursor.remaining = .ok (opening ++ "a<<<>>>\n>>>>".toList) ∧
      Emits {} .comment state (opening ++ "a<<<>>>\n>>>".toList) (.token .blockComment) := by
  obtain ⟨state, reached, ahead⟩ :=
    @exists_atLexeme " <<<a<<<>>>\n>>>>" (opening ++ "a<<<>>>\n>>>>".toList) {} (by decide) [' ']
      rfl (forall_mem_of_all (by decide)) ⟨'<', rfl, rfl⟩
  have closes : closing <:+: "a<<<>>>\n>>>>".toList.takeWhile (· != '\n') :=
    ⟨['a', '<', '<', '<'], [], rfl⟩
  have closesAfter : ClosesAfter "a<<<>>>\n>>>>".toList "a<<<>>>\n>>>".toList := by
    refine ⟨[['a'], opening, closing, ['\n']], ⟨[['>']], rfl⟩, rfl, by decide, ?_⟩
    have first : ∀ front ∈ [['a'], opening, closing, ['\n']].inits, front.getLast? = some closing →
        depthBehind front ≠ 0 := by
      decide
    intro earlier leads
    exact first _ ((List.mem_inits _ _).mpr leads) List.getLast?_concat
  exact ⟨state, reached, ahead, ((comment_rule (by decide) reached ahead).2 closes).1 _ closesAfter⟩

end Scanner

end ScriptLexer
