import Mathlib.Data.List.Destutter
import ScriptLexer.Proofs.Coverage
import ScriptLexer.Proofs.Positions
import ScriptLexer.Proofs.Text.Boundary

/-!
# Lines with errors

The lines with errors are collected by inserting each into an ascending list, in whatever order the
errors come. The errors of a run come in the order of the text, an operator sequence reported ahead
of its token and an open comment reported at the end of the text included, so their lines never go
back. Going along the errors and leaving out a line that was told just before therefore gives the
same list.
-/
namespace ScriptLexer

namespace Lexing

/-- The line of each error, in the order of the errors. -/
def errorLines (lexing : Lexing) : List Nat := lexing.errors.map fun error => error.span.line

/-- The lines with errors are told once each, in the order of the errors, and are lines of the
source. -/
structure TellsLines (lexing : Lexing) (source : Source) : Prop where
  inOrder : lexing.errorLines.Pairwise (· ≤ ·)
  withoutRepeats : lexing.linesWithErrors = lexing.errorLines.destutter (· ≠ ·)
  ascends : lexing.linesWithErrors.Pairwise (· < ·)
  mem_iff : ∀ line, line ∈ lexing.linesWithErrors ↔ ∃ error ∈ lexing.errors, error.span.line = line
  inside : ∀ line ∈ lexing.linesWithErrors, 1 ≤ line ∧ line ≤ source.lineCount

/-! ## Collecting lines -/

section Collecting

variable {line number : Nat} {lines : List Nat}

theorem mem_insertLine : number ∈ insertLine line lines ↔ number = line ∨ number ∈ lines := by
  induction lines with
  | nil => simp [insertLine]
  | cons first others ih =>
    rw [insertLine]
    split
    case isTrue => exact List.mem_cons
    case isFalse =>
      split
      case isTrue same => simp [same]
      case isFalse => simp only [List.mem_cons, ih, or_left_comm]

theorem insertLine_ascends (ascends : lines.Pairwise (· < ·)) :
    (insertLine line lines).Pairwise (· < ·) := by
  induction lines with
  | nil => exact List.pairwise_singleton _ _
  | cons first others ih =>
    obtain ⟨least, rest⟩ := List.pairwise_cons.mp ascends
    rw [insertLine]
    split
    case isTrue before =>
      apply List.pairwise_cons.mpr
      refine ⟨?_, ascends⟩
      intro later member
      rcases List.mem_cons.mp member with rfl | behind
      · exact before
      · exact Nat.lt_trans before (least later behind)
    case isFalse notBefore =>
      split
      case isTrue => exact ascends
      case isFalse differs =>
        apply List.pairwise_cons.mpr
        refine ⟨?_, ih rest⟩
        intro later member
        rcases mem_insertLine.mp member with rfl | behind
        · omega
        · exact least later behind

theorem mem_foldr_insertLine : number ∈ lines.foldr insertLine [] ↔ number ∈ lines := by
  induction lines with
  | nil => rfl
  | cons first others ih => rw [List.foldr_cons, mem_insertLine, ih, List.mem_cons]

theorem foldr_insertLine_ascends (lines : List Nat) :
    (lines.foldr insertLine []).Pairwise (· < ·) := by
  induction lines with
  | nil => exact List.Pairwise.nil
  | cons first others ih => exact insertLine_ascends ih

/-- Lines that never go back are collected by leaving out each that was there just before. -/
theorem foldr_insertLine_eq_destutter (inOrder : lines.Pairwise (· ≤ ·)) :
    lines.foldr insertLine [] = lines.destutter (· ≠ ·) := by
  rw [inOrder.destutter_eq_dedup]
  -- Both lists ascend and hold the same lines once, so they are one list.
  have collected := foldr_insertLine_ascends lines
  have once : (lines.foldr insertLine []).Nodup := collected.imp Nat.ne_of_lt
  have perm : (lines.foldr insertLine []).Perm lines.dedup := by
    apply (List.perm_ext_iff_of_nodup once (List.nodup_dedup lines)).mpr
    intro number
    rw [mem_foldr_insertLine, List.mem_dedup]
  apply perm.eq_of_pairwise
  · intro first second _ _ le ge
    exact Nat.le_antisymm le ge
  · exact collected.imp Nat.le_of_lt
  · exact inOrder.sublist (List.dedup_sublist lines)

end Collecting

theorem linesWithErrors_eq (lexing : Lexing) :
    lexing.linesWithErrors = lexing.errorLines.foldr insertLine [] :=
  List.foldr_map.symm

end Lexing

/-! ## Lines in the order of the text -/

variable {source : Source}

/-- Of two lexemes in a source, the one that starts later is not on an earlier line. -/
theorem Source.Holds.line_le {earlier later : String} {span next : Span}
    (first : source.Holds earlier span) (second : source.Holds later next)
    (starts : span.start ≤ next.start) : span.line ≤ next.line := by
  obtain ⟨front, taken, line, _⟩ := first.counted
  obtain ⟨longer, takenNext, lineNext, _⟩ := second.counted
  obtain ⟨back, split, size⟩ := Text.takeBytes_eq_some_iff.mp taken
  obtain ⟨rest, splitNext, sizeNext⟩ := Text.takeBytes_eq_some_iff.mp takenNext
  obtain ⟨between, rfl, _⟩ :=
    Text.exists_append_of_byteLength_le (split.symm.trans splitNext) (by omega)
  rw [line, lineNext, List.count_append]
  omega

namespace Lexing

variable {lexing : Lexing}

theorem errorLines_inOrder (held : ∀ error ∈ lexing.errors, source.Holds error.lexeme error.span)
    (ascend : (lexing.errors.map LexicalError.span).Pairwise Span.Precedes) :
    lexing.errorLines.Pairwise (· ≤ ·) := by
  rw [errorLines, List.pairwise_map]
  apply (List.pairwise_map.mp ascend).imp_of_mem
  intro first second among member precedes
  exact (held first among).line_le (held second member) (Nat.le_of_lt precedes.1)

/-- Errors that a source holds, one behind the other, are on its lines and in their order. -/
theorem tellsLines (held : ∀ error ∈ lexing.errors, source.Holds error.lexeme error.span)
    (ascend : (lexing.errors.map LexicalError.span).Pairwise Span.Precedes) :
    lexing.TellsLines source := by
  have inOrder := errorLines_inOrder held ascend
  have collected := lexing.linesWithErrors_eq
  have member : ∀ line, line ∈ lexing.linesWithErrors ↔
      ∃ error ∈ lexing.errors, error.span.line = line := by
    intro line
    rw [collected, mem_foldr_insertLine, errorLines, List.mem_map]
  constructor
  case inOrder => exact inOrder
  case withoutRepeats => rw [collected, foldr_insertLine_eq_destutter inOrder]
  case ascends =>
    rw [collected]
    exact foldr_insertLine_ascends _
  case mem_iff => exact member
  case inside =>
    intro line listed
    obtain ⟨error, among, rfl⟩ := (member line).mp listed
    exact (held error among).isLine

end Lexing

/-- The errors of a text never go back to an earlier line, and the lines with errors are theirs,
each told once; a source of the same text has all of them. -/
theorem lexText_errorLines (options : LexingOptions) {content : String}
    (short : content.length + 1 < counterLimit) :
    ∃ lexing, lexText options content = .ok lexing ∧
      ∀ name, lexing.TellsLines { name, content } := by
  obtain ⟨pieces, tail, same, divides⟩ := exists_division content.toList
  refine ⟨_, (lexText_yields options divides same.symm).eq_ok short, ?_⟩
  intro name
  have text : ({ name, content } : Source).text = textOf pieces tail := same.symm
  have held := Lexing.forall_records_ofPieces options fun _ => holds_of_mem_locate divides text
  have ascend := errorsOf_ascend options none (@locate_pairwise {} pieces tail divides)
  exact Lexing.tellsLines held.2 ascend

/-- Two errors are on the first line; the string on the second takes the break behind it along, and
the comment on the fourth is found open only where the text ends. -/
theorem lexText_errorLines_openComment :
    ∃ lexing,
      lexText { reportOpenComments := true } "= = 5a\n'a\\\nb\n@ <<< <<< >>>\n\n" = .ok lexing ∧
      lexing.errorLines = [1, 1, 2, 4, 4] ∧ lexing.linesWithErrors = [1, 2, 4] ∧
      lexing.TellsLines { name := "t", content := "= = 5a\n'a\\\nb\n@ <<< <<< >>>\n\n" } := by
  obtain ⟨lexing, lexed, told⟩ :=
    @lexText_errorLines { reportOpenComments := true } "= = 5a\n'a\\\nb\n@ <<< <<< >>>\n\n"
      (by decide)
  have found : (lexText { reportOpenComments := true } "= = 5a\n'a\\\nb\n@ <<< <<< >>>\n\n").map
      (fun lexing => (lexing.errorLines, lexing.linesWithErrors)) =
        .ok ([1, 1, 2, 4, 4], [1, 2, 4]) := by
    decide +kernel
  rw [lexed] at found
  obtain ⟨lines, once⟩ := Prod.mk.inj (Except.ok.inj found)
  exact ⟨lexing, lexed, lines, once, told "t"⟩

end ScriptLexer
