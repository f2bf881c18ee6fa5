import ScriptLexer.Proofs.Grammar.Basic
import ScriptLexer.Proofs.Overflow

/-!
# Reading comments

The reader of comments finds exactly the comments of the grammar. The invariant of its walk over a
body is that the delimiters still ahead close the depth reached so far, or never do.
-/
namespace ScriptLexer

namespace Grammar

theorem mentionsClosing_iff (text : List Char) :
    mentionsClosing text = true ↔ closing <:+: text := by
  induction text using mentionsClosing.induct with
  | case1 rest =>
    have occurs : closing <:+: '>' :: '>' :: '>' :: rest := ⟨[], rest, rfl⟩
    simp [mentionsClosing, occurs]
  | case2 c rest apart ih =>
    have notHere : ¬ closing <+: c :: rest := by
      rintro ⟨more, same⟩
      obtain ⟨rfl, tail⟩ := List.cons.inj same
      exact apart more rfl tail.symm
    rw [mentionsClosing.eq_2 c rest apart, ih, List.infix_cons_iff]
    simp [notHere]
  | case3 => simp [mentionsClosing, closing]

/-! ## Steps of the depth -/

theorem dropsAtEnd_cons {depth step : Int} {steps : List Int} (up : 0 ≤ depth) :
    DropsAtEnd depth (step :: steps) ↔
      if depth + step < 0 then steps = [] else DropsAtEnd (depth + step) steps := by
  split
  case isTrue drop =>
    constructor
    · rintro ⟨_, before⟩
      by_contra more
      have early := before [step] ⟨steps, rfl⟩ (by simpa using Ne.symm more)
      rw [depthAfter_cons, depthAfter_nil] at early
      omega
    · rintro rfl
      refine ⟨drop, ?_⟩
      intro front isFront short
      rcases List.prefix_cons_iff.mp isFront with rfl | ⟨rest, rfl, restFront⟩
      · exact up
      · exact absurd (by rw [List.prefix_nil.mp restFront]) short
  case isFalse stay =>
    constructor
    · rintro ⟨down, before⟩
      refine ⟨down, ?_⟩
      intro front isFront short
      exact before (step :: front) (List.cons_prefix_cons.mpr ⟨rfl, isFront⟩) (by simpa using short)
    · rintro ⟨down, before⟩
      refine ⟨down, ?_⟩
      intro front isFront short
      rcases List.prefix_cons_iff.mp isFront with rfl | ⟨rest, rfl, restFront⟩
      · exact up
      · exact before rest restFront (by simpa using short)

theorem staysUp_cons {depth step : Int} {steps : List Int} :
    StaysUp depth (step :: steps) ↔ 0 ≤ depth ∧ StaysUp (depth + step) steps := by
  constructor
  · intro stays
    refine ⟨stays [] List.nil_prefix, ?_⟩
    intro front isFront
    exact stays (step :: front) (List.cons_prefix_cons.mpr ⟨rfl, isFront⟩)
  · rintro ⟨up, stays⟩ front isFront
    rcases List.prefix_cons_iff.mp isFront with rfl | ⟨rest, rfl, restFront⟩
    · exact up
    · exact stays rest restFront

theorem not_dropsAtEnd_nil {depth : Int} (up : 0 ≤ depth) : ¬ DropsAtEnd depth [] := by
  rintro ⟨down, _⟩
  rw [depthAfter_nil] at down
  omega

theorem staysUp_nil {depth : Int} (up : 0 ≤ depth) : StaysUp depth [] := by
  intro front isFront
  rw [List.prefix_nil.mp isFront]
  exact up

theorem depthSteps_eq_nil {body : List Char} (noSteps : depthSteps body = []) : body = [] := by
  induction body using depthSteps.induct with
  | case1 rest =>
    rw [depthSteps_opening] at noSteps
    cases noSteps
  | case2 rest =>
    rw [depthSteps_closing] at noSteps
    cases noSteps
  | case3 c rest noOpening noClosing =>
    rw [depthSteps_plain noOpening noClosing] at noSteps
    cases noSteps
  | case4 => rfl

/-! ## Units of a body

What the first unit does to the depth, for bodies that close the comment and for bodies that leave
it open.
-/

section Units

variable {depth : Nat} {c : Char} {rest : List Char}

theorem drops_opening : DropsAtEnd depth (depthSteps ('<' :: '<' :: '<' :: rest)) ↔
    DropsAtEnd (depth + 1 : Nat) (depthSteps rest) := by
  rw [depthSteps_opening, dropsAtEnd_cons (by omega), if_neg (by omega)]
  rfl

theorem drops_closing_zero :
    DropsAtEnd (0 : Nat) (depthSteps ('>' :: '>' :: '>' :: rest)) ↔ rest = [] := by
  rw [depthSteps_closing, dropsAtEnd_cons (by omega), if_pos (by omega)]
  constructor
  · exact depthSteps_eq_nil
  · rintro rfl
    rfl

theorem drops_closing_succ : DropsAtEnd (depth + 1 : Nat) (depthSteps ('>' :: '>' :: '>' :: rest)) ↔
    DropsAtEnd depth (depthSteps rest) := by
  have step : ((depth + 1 : Nat) : Int) + -1 = depth := by omega
  rw [depthSteps_closing, dropsAtEnd_cons (by omega), if_neg (by omega), step]

theorem stays_opening : StaysUp depth (depthSteps ('<' :: '<' :: '<' :: rest)) ↔
    StaysUp (depth + 1 : Nat) (depthSteps rest) := by
  rw [depthSteps_opening, staysUp_cons]
  exact and_iff_right (by omega)

theorem not_stays_closing_zero : ¬ StaysUp (0 : Nat) (depthSteps ('>' :: '>' :: '>' :: rest)) := by
  rw [depthSteps_closing, staysUp_cons]
  rintro ⟨_, higher⟩
  have down := higher [] List.nil_prefix
  simp at down

theorem stays_closing_succ : StaysUp (depth + 1 : Nat) (depthSteps ('>' :: '>' :: '>' :: rest)) ↔
    StaysUp depth (depthSteps rest) := by
  have step : ((depth + 1 : Nat) : Int) + -1 = depth := by omega
  rw [depthSteps_closing, staysUp_cons, step]
  exact and_iff_right (by omega)

variable (noOpening : ∀ more, c = '<' → rest = '<' :: '<' :: more → False)
  (noClosing : ∀ more, c = '>' → rest = '>' :: '>' :: more → False)

include noOpening noClosing

theorem drops_plain :
    DropsAtEnd depth (depthSteps (c :: rest)) ↔ DropsAtEnd depth (depthSteps rest) := by
  rw [depthSteps_plain noOpening noClosing, dropsAtEnd_cons (by omega), if_neg (by omega),
    Int.add_zero]

theorem stays_plain : StaysUp depth (depthSteps (c :: rest)) ↔ StaysUp depth (depthSteps rest) := by
  rw [depthSteps_plain noOpening noClosing, staysUp_cons, Int.add_zero]
  exact and_iff_right (by omega)

end Units

/-- A body that drops below zero ends in a closing delimiter. -/
theorem closing_suffix {depth : Nat} {body : List Char}
    (drops : DropsAtEnd depth (depthSteps body)) : closing <:+ body := by
  induction body using depthSteps.induct generalizing depth with
  | case1 rest ih => exact (ih (drops_opening.mp drops)).trans ⟨opening, rfl⟩
  | case2 rest ih =>
    cases depth with
    | zero =>
      rw [drops_closing_zero.mp drops]
      exact List.suffix_refl closing
    | succ depth => exact (ih (drops_closing_succ.mp drops)).trans ⟨closing, rfl⟩
  | case3 c rest noOpening noClosing ih =>
    exact (ih ((drops_plain noOpening noClosing).mp drops)).trans ⟨[c], rfl⟩
  | case4 => exact absurd drops (not_dropsAtEnd_nil (by omega))

/-- A body either has a leading part that closes it, or stays open to its end. -/
theorem exists_closed_or_open (depth : Nat) (body : List Char) :
    (∃ front rest, body = front ++ rest ∧ DropsAtEnd depth (depthSteps front)) ∨
      StaysUp depth (depthSteps body) := by
  induction body using depthSteps.induct generalizing depth with
  | case1 rest ih =>
    rcases ih (depth + 1) with ⟨front, tail, rfl, drops⟩ | stays
    · exact .inl ⟨'<' :: '<' :: '<' :: front, tail, rfl, drops_opening.mpr drops⟩
    · exact .inr (stays_opening.mpr stays)
  | case2 rest ih =>
    cases depth with
    | zero => exact .inl ⟨closing, rest, rfl, drops_closing_zero.mpr rfl⟩
    | succ depth =>
      rcases ih depth with ⟨front, tail, rfl, drops⟩ | stays
      · exact .inl ⟨'>' :: '>' :: '>' :: front, tail, rfl, drops_closing_succ.mpr drops⟩
      · exact .inr (stays_closing_succ.mpr stays)
  | case3 c rest noOpening noClosing ih =>
    rcases ih depth with ⟨front, tail, rfl, drops⟩ | stays
    · refine .inl ⟨c :: front, tail, rfl, (drops_plain ?_ ?_).mpr drops⟩
      · exact fun more head same => noOpening (more ++ tail) head (by simp [same])
      · exact fun more head same => noClosing (more ++ tail) head (by simp [same])
    · exact .inr ((stays_plain noOpening noClosing).mpr stays)
  | case4 => exact .inr (staysUp_nil (by omega))

/-- The characters behind a body do not change how its beginning reads. -/
private theorem apart_append {sign c : Char} {body rest : List Char} (long : 2 ≤ body.length)
    (apart : ∀ more, c = sign → body = sign :: sign :: more → False) :
    ∀ more, c = sign → body ++ rest = sign :: sign :: more → False := by
  intro more head same
  match body, long with
  | first :: second :: others, _ =>
    simp only [List.cons_append, List.cons.injEq] at same
    obtain ⟨rfl, rfl, _⟩ := same
    exact apart others head rfl

theorem commentEnd_closed {depth : Nat} (passed : Nat) {body : List Char} (rest : List Char)
    (drops : DropsAtEnd depth (depthSteps body)) :
    Yields (depth + body.length) (commentEnd depth passed (body ++ rest))
      { length := passed + body.length, closed := true } := by
  induction body using depthSteps.induct generalizing depth passed with
  | case1 inner ih =>
    have deeper := ih (passed + 3) (drops_opening.mp drops)
    simp only [List.cons_append, commentEnd, List.length_cons]
    split
    · rw [show passed + (inner.length + 1 + 1 + 1) = passed + 3 + inner.length by omega]
      exact deeper.mono (by omega)
    · exact .inr ⟨rfl, by omega⟩
  | case2 inner ih =>
    cases depth with
    | zero =>
      rw [drops_closing_zero.mp drops]
      exact .ok _ _
    | succ depth =>
      have higher := ih (passed + 3) (drops_closing_succ.mp drops)
      simp only [List.cons_append, commentEnd, List.length_cons]
      rw [show passed + (inner.length + 1 + 1 + 1) = passed + 3 + inner.length by omega]
      exact higher.mono (by omega)
  | case3 c inner noOpening noClosing ih =>
    have level := (drops_plain noOpening noClosing).mp drops
    have long : 3 ≤ inner.length := (closing_suffix level).length_le
    rw [List.cons_append, commentEnd.eq_4 _ _ c _ (apart_append (by omega) noOpening)
      (apart_append (by omega) noClosing), List.length_cons,
      show passed + (inner.length + 1) = passed + 1 + inner.length by omega]
    exact (ih (passed + 1) level).mono (by omega)
  | case4 => exact absurd drops (not_dropsAtEnd_nil (by omega))

theorem commentEnd_open {depth : Nat} (passed : Nat) {body : List Char}
    (stays : StaysUp depth (depthSteps body)) :
    Yields (depth + body.length) (commentEnd depth passed body)
      { length := passed + body.length, closed := false } := by
  induction body using depthSteps.induct generalizing depth passed with
  | case1 inner ih =>
    have deeper := ih (passed + 3) (stays_opening.mp stays)
    simp only [commentEnd, List.length_cons]
    split
    · rw [show passed + (inner.length + 1 + 1 + 1) = passed + 3 + inner.length by omega]
      exact deeper.mono (by omega)
    · exact .inr ⟨rfl, by omega⟩
  | case2 inner ih =>
    cases depth with
    | zero => exact absurd stays not_stays_closing_zero
    | succ depth =>
      have higher := ih (passed + 3) (stays_closing_succ.mp stays)
      simp only [commentEnd, List.length_cons]
      rw [show passed + (inner.length + 1 + 1 + 1) = passed + 3 + inner.length by omega]
      exact higher.mono (by omega)
  | case3 c inner noOpening noClosing ih =>
    have level := ih (passed + 1) ((stays_plain noOpening noClosing).mp stays)
    rw [commentEnd.eq_4 _ _ c _ noOpening noClosing, List.length_cons,
      show passed + (inner.length + 1) = passed + 1 + inner.length by omega]
    exact level.mono (by omega)
  | case4 => exact .ok _ _

/-! ## The first line -/

theorem closesOnFirstLine_append {body : List Char} (rest : List Char)
    (closes : ClosesOnFirstLine body) : ClosesOnFirstLine (body ++ rest) := by
  refine closes.trans ?_
  rw [List.takeWhile_append]
  split
  case isTrue same =>
    exact (List.takeWhile_prefix _).isInfix.trans (List.prefix_append body _).isInfix
  case isFalse => exact List.infix_refl _

/-- What closes the comment closes it on its own first line, if anything on that line does. -/
theorem closesOnFirstLine_of_append {depth : Nat} {body rest : List Char}
    (drops : DropsAtEnd depth (depthSteps body)) (closes : ClosesOnFirstLine (body ++ rest)) :
    ClosesOnFirstLine body := by
  unfold ClosesOnFirstLine at closes ⊢
  rw [List.takeWhile_append] at closes
  split at closes
  case isTrue same =>
    have whole : body.takeWhile (· != '\n') = body :=
      (List.takeWhile_prefix _).eq_of_length same
    rw [whole]
    exact (closing_suffix drops).isInfix
  case isFalse => exact closes

end Grammar

open Grammar

variable {body : List Char}

theorem readComment_line (rest : List Char) (oneLine : '\n' ∉ body)
    (noClosing : ¬ closing <:+: body) (ends : ∀ c ∈ rest.head?, c = '\n') :
    readComment (opening ++ body ++ rest) =
      .ok (some { finding := .token .lineComment, length := (opening ++ body).length }) := by
  have line : (body ++ rest).takeWhile (· != '\n') = body := by
    apply Stops.takeWhile_append
    · intro c member
      have different : c ≠ '\n' := by rintro rfl; exact oneLine member
      simpa using different
    · intro c next
      simpa using ends c next
  have noMention : mentionsClosing body = false := by
    rw [Bool.eq_false_iff, ne_eq, mentionsClosing_iff]
    exact noClosing
  simp [opening, readComment, line, noMention, Nat.add_comm 3]

theorem readComment_closed (rest : List Char) (closes : ClosesOnFirstLine body)
    (drops : DropsAtEnd 0 (depthSteps body)) :
    Yields (opening ++ body).length (readComment (opening ++ body ++ rest))
      (some { finding := .token .blockComment, length := (opening ++ body).length }) := by
  have mentions : mentionsClosing ((body ++ rest).takeWhile (· != '\n')) = true :=
    (mentionsClosing_iff _).mpr (closesOnFirstLine_append rest closes)
  have reached := (@commentEnd_closed 0 3 body rest drops).map fun reached : CommentEnd =>
    some { finding := if reached.closed then .token .blockComment else .openComment,
           length := reached.length : Reading }
  simp only [opening, List.cons_append, List.nil_append, readComment, mentions, if_true,
    List.length_cons]
  rw [Nat.add_comm 3] at reached
  exact reached.mono (by omega)

theorem readComment_open (closes : ClosesOnFirstLine body) (stays : StaysUp 0 (depthSteps body)) :
    Yields (opening ++ body).length (readComment (opening ++ body))
      (some { finding := .openComment, length := (opening ++ body).length }) := by
  have mentions : mentionsClosing (body.takeWhile (· != '\n')) = true :=
    (mentionsClosing_iff _).mpr closes
  have reached := (@commentEnd_open 0 3 body stays).map fun reached : CommentEnd =>
    some { finding := if reached.closed then .token .blockComment else .openComment,
           length := reached.length : Reading }
  simp only [opening, List.cons_append, List.nil_append, readComment, mentions, if_true,
    List.length_cons]
  rw [Nat.add_comm 3] at reached
  exact reached.mono (by omega)

/-- Whatever opens like a comment is one. -/
theorem exists_comment (body : List Char) :
    ∃ finding lexeme rest, opening ++ body = lexeme ++ rest ∧ Stands finding lexeme rest := by
  by_cases closes : ClosesOnFirstLine body
  · rcases exists_closed_or_open 0 body with ⟨front, rest, rfl, drops⟩ | stays
    · have own := closesOnFirstLine_of_append drops closes
      exact ⟨.token .blockComment, opening ++ front, rest, by simp, ⟨front, rfl, own, drops⟩,
        fun _ _ => trivial⟩
    · exact ⟨.openComment, opening ++ body, [], by simp, ⟨body, rfl, closes, stays⟩, by simp⟩
  · obtain ⟨line, rest, rfl, inLine, stops⟩ := exists_run (· != '\n') body
    have whole : (line ++ rest).takeWhile (· != '\n') = line := Stops.takeWhile_append inLine stops
    refine ⟨.token .lineComment, opening ++ line, rest, by simp, ⟨line, rfl, ?_, ?_⟩, ?_⟩
    · intro member
      simpa using inLine _ member
    · rwa [ClosesOnFirstLine, whole] at closes
    · intro c next
      have lineBreak : c = '\n' := by simpa using stops c next
      exact lineBreak

end ScriptLexer
