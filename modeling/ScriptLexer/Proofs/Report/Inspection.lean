import Mathlib.Data.List.Induction
import Mathlib.Data.List.Nodup
import ScriptLexer.CommandLine.Program
import ScriptLexer.Files.Tree
import ScriptLexer.Proofs.Run

/-!
# Inspections

An inspection accounts for every error of its source: each is rendered once, in order, and counted
once under its code. So the counts say how many errors there are, and a check fails exactly where
there are some. The command that shows tokens lexes the same source and knows of the same errors.
-/
namespace ScriptLexer

/-! ## Tallies -/

/-- The counts hold each value that occurs once, in the order of first occurrence, with how often it
occurs. -/
structure IsTally {α : Type} [DecidableEq α] (counts : List (α × Nat)) (xs : List α) : Prop where
  distinct : (counts.map Prod.fst).Nodup
  occurring : ∀ x, x ∈ counts.map Prod.fst ↔ x ∈ xs
  ordered : (counts.map Prod.fst).Pairwise fun first second => xs.idxOf first < xs.idxOf second
  counted : ∀ entry ∈ counts, entry.2 = xs.count entry.1

/-- How many occurrences are counted. -/
def total {α : Type} (counts : List (α × Nat)) : Nat :=
  counts.foldr (fun entry others => entry.2 + others) 0

theorem total_cons {α : Type} (entry : α × Nat) (others : List (α × Nat)) :
    total (entry :: others) = entry.2 + total others := rfl

section Tally

variable {α : Type} [DecidableEq α] {x : α} {counts : List (α × Nat)} {xs : List α}

theorem tallyOne_of_notMem (new : x ∉ counts.map Prod.fst) :
    tallyOne x counts = counts ++ [(x, 1)] := by
  induction counts with
  | nil => rfl
  | cons entry others ih =>
    rw [List.map_cons, List.mem_cons, not_or] at new
    rw [tallyOne, if_neg (Ne.symm new.1), ih new.2, List.cons_append]

/-- Where no value has two entries, one more occurrence changes the entry of that value alone. -/
theorem tallyOne_of_mem (distinct : (counts.map Prod.fst).Nodup) (known : x ∈ counts.map Prod.fst) :
    tallyOne x counts =
      counts.map fun entry => (entry.1, entry.2 + if entry.1 = x then 1 else 0) := by
  induction counts with
  | nil => cases known
  | cons entry others ih =>
    rw [List.map_cons, List.nodup_cons] at distinct
    by_cases here : entry.1 = x
    · have apart : ∀ other ∈ others, other.1 ≠ x := by
        intro other member same
        apply distinct.1
        rw [here, ← same]
        exact List.mem_map_of_mem member
      have unchanged :
          others.map (fun entry => (entry.1, entry.2 + if entry.1 = x then 1 else 0)) = others := by
        refine (List.map_congr_left ?_).trans (List.map_id others)
        intro other member
        simp [apart other member]
      rw [tallyOne, if_pos here, List.map_cons, if_pos here, unchanged]
    · have later : x ∈ others.map Prod.fst := by
        rw [List.map_cons, List.mem_cons] at known
        exact known.resolve_left (Ne.symm here)
      rw [tallyOne, if_neg here, ih distinct.2 later, List.map_cons, if_neg here]
      rfl

theorem total_tallyOne (x : α) (counts : List (α × Nat)) :
    total (tallyOne x counts) = total counts + 1 := by
  induction counts with
  | nil => rfl
  | cons entry others ih =>
    by_cases here : entry.1 = x
    · rw [tallyOne, if_pos here, total_cons, total_cons]
      omega
    · rw [tallyOne, if_neg here, total_cons, total_cons, ih]
      omega

theorem tallyOne_map {β : Type} [DecidableEq β] {f : α → β} (injective : Function.Injective f)
    (x : α) (counts : List (α × Nat)) :
    tallyOne (f x) (counts.map fun entry => (f entry.1, entry.2)) =
      (tallyOne x counts).map fun entry => (f entry.1, entry.2) := by
  induction counts with
  | nil => rfl
  | cons entry others ih =>
    by_cases here : entry.1 = x
    · simp [tallyOne, here]
    · have apart : f entry.1 ≠ f x := fun same => here (injective same)
      simp [tallyOne, here, apart, ih]

/-- What occurred before has its first occurrence where it was. -/
theorem IsTally.idxOf_append (tallied : IsTally counts xs) (x : α) :
    ∀ y ∈ counts.map Prod.fst, (xs ++ [x]).idxOf y = xs.idxOf y := fun y member =>
  List.idxOf_append_of_mem ((tallied.occurring y).mp member)

theorem IsTally.ordered_append (tallied : IsTally counts xs) (x : α) :
    (counts.map Prod.fst).Pairwise fun first second =>
      (xs ++ [x]).idxOf first < (xs ++ [x]).idxOf second := by
  refine tallied.ordered.imp_of_mem ?_
  intro first second one other before
  rwa [tallied.idxOf_append x first one, tallied.idxOf_append x second other]

/-- A value that occurred before keeps its entry, with one more in its count. -/
theorem IsTally.tallyOne_known (tallied : IsTally counts xs) (known : x ∈ counts.map Prod.fst) :
    IsTally (tallyOne x counts) (xs ++ [x]) := by
  have entries := tallyOne_of_mem tallied.distinct known
  have keys : (tallyOne x counts).map Prod.fst = counts.map Prod.fst := by
    rw [entries, List.map_map]
    rfl
  constructor
  case distinct =>
    rw [keys]
    exact tallied.distinct
  case occurring =>
    intro y
    have among := (tallied.occurring x).mp known
    rw [keys, tallied.occurring, List.mem_append, List.mem_singleton]
    constructor
    · exact Or.inl
    · rintro (before | rfl)
      · exact before
      · exact among
  case ordered =>
    rw [keys]
    exact tallied.ordered_append x
  case counted =>
    rw [entries]
    intro entry member
    obtain ⟨before, among, rfl⟩ := List.mem_map.mp member
    rw [List.count_append, List.count_singleton, tallied.counted before among]
    by_cases same : before.1 = x
    · simp [same]
    · simp [same, Ne.symm same]

/-- A value that is new gets an entry of its own behind the others. -/
theorem IsTally.tallyOne_new (tallied : IsTally counts xs) (new : x ∉ counts.map Prod.fst) :
    IsTally (tallyOne x counts) (xs ++ [x]) := by
  have absent : x ∉ xs := fun among => new ((tallied.occurring x).mpr among)
  rw [tallyOne_of_notMem new]
  constructor
  case distinct =>
    rw [List.map_append, List.nodup_append]
    refine ⟨tallied.distinct, List.nodup_singleton _, ?_⟩
    intro first member last isLast same
    obtain rfl : last = x := by simpa using isLast
    exact new (same ▸ member)
  case occurring =>
    intro y
    rw [List.map_append, List.mem_append, List.mem_append, tallied.occurring]
    rfl
  case ordered =>
    rw [List.map_append, List.pairwise_append]
    refine ⟨tallied.ordered_append x, List.pairwise_singleton _ _, ?_⟩
    intro first member last isLast
    obtain rfl : last = x := by simpa using isLast
    have before := List.idxOf_lt_length_iff.mpr ((tallied.occurring first).mp member)
    rw [tallied.idxOf_append last first member, List.idxOf_append_of_notMem absent]
    omega
  case counted =>
    intro entry member
    rcases List.mem_append.mp member with before | last
    · have other : entry.1 ≠ x := by
        rintro rfl
        exact new (List.mem_map_of_mem before)
      rw [tallied.counted entry before, List.count_append, List.count_singleton]
      simp [Ne.symm other]
    · obtain rfl := List.mem_singleton.mp last
      simp [List.count_eq_zero_of_not_mem absent]

/-- One more occurrence, counted, is one more value, tallied. -/
theorem IsTally.concat (tallied : IsTally counts xs) (x : α) :
    IsTally (tallyOne x counts) (xs ++ [x]) := by
  by_cases known : x ∈ counts.map Prod.fst
  case pos => exact tallied.tallyOne_known known
  case neg => exact tallied.tallyOne_new known

theorem tally_concat (xs : List α) (x : α) : tally (xs ++ [x]) = tallyOne x (tally xs) := by
  rw [tally, List.foldl_append]
  rfl

theorem isTally_tally (xs : List α) : IsTally (tally xs) xs := by
  induction xs using List.reverseRecOn with
  | nil => exact ⟨List.nodup_nil, by simp [tally], List.Pairwise.nil, by simp [tally]⟩
  | append_singleton xs x ih =>
    rw [tally_concat]
    exact ih.concat x

/-- Every value is counted once. -/
theorem total_tally (xs : List α) : total (tally xs) = xs.length := by
  induction xs using List.reverseRecOn with
  | nil => rfl
  | append_singleton xs x ih =>
    rw [tally_concat, total_tallyOne, ih, List.length_append, List.length_singleton]

theorem tally_map {β : Type} [DecidableEq β] {f : α → β} (injective : Function.Injective f)
    (xs : List α) : tally (xs.map f) = (tally xs).map fun entry => (f entry.1, entry.2) := by
  induction xs using List.reverseRecOn with
  | nil => rfl
  | append_singleton xs x ih =>
    rw [List.map_append, List.map_singleton, tally_concat, tally_concat, ih, tallyOne_map injective]

end Tally

/-! ## Reports on errors -/

namespace ErrorCode

theorem ofNumber?_number (code : ErrorCode) : ofNumber? code.number = some code := by
  cases code <;> rfl

/-- Different codes have different numbers, so they stay apart as codes of diagnostics. -/
theorem diagnosticCode_injective : Function.Injective diagnosticCode := by
  intro first second same
  have numbers : first.number = second.number := congrArg Diagnostic.Code.number same
  have found := ofNumber?_number first
  rw [numbers, ofNumber?_number second] at found
  exact (Option.some.inj found).symm

theorem diagnosticCode_display (code : ErrorCode) : code.diagnosticCode.display = code.name := by
  cases code <;> decide

end ErrorCode

namespace Inspection

/-- The inspection reports exactly these errors of the source, in their order. -/
structure Accounts (inspection : Inspection) (source : Source)
    (errors : List LexicalError) : Prop where
  sourceName : inspection.sourceName = source.name
  rendered : inspection.rendered =
    String.join (errors.map fun error => error.diagnostic.render source ++ "\n")
  errorCount : inspection.errorCount = errors.length
  counts : ∃ counts, IsTally counts (errors.map LexicalError.code) ∧
    inspection.counts = counts.map (fun entry => (entry.1.diagnosticCode, entry.2)) ∧
    (errors ≠ [] → inspection.summary = toString errors.length ++ " lexical error(s): " ++
      ", ".intercalate (counts.map fun entry => entry.1.name ++ " x" ++ toString entry.2))
  noErrors : errors = [] → inspection.summary = source.name ++ ": no lexical errors"

variable (source : Source) (errors : List LexicalError)

theorem counts_ofErrors : (ofErrors source errors).counts =
    (tally (errors.map LexicalError.code)).map fun entry => (entry.1.diagnosticCode, entry.2) := by
  rw [← tally_map ErrorCode.diagnosticCode_injective, List.map_map]
  simp only [ofErrors, DiagnosticLog.addAll, List.nil_append, List.filterMap_map]
  rw [← List.filterMap_eq_map]
  rfl

theorem errorCount_eq_total (inspection : Inspection) :
    inspection.errorCount = total inspection.counts := rfl

theorem errorCount_ofErrors : (ofErrors source errors).errorCount = errors.length := by
  have counted := total_tally (errors.map LexicalError.code)
  rw [List.length_map] at counted
  rw [errorCount_eq_total, counts_ofErrors, total, List.foldr_map]
  exact counted

theorem counts_eq_nil_iff : (ofErrors source errors).counts = [] ↔ errors = [] := by
  constructor
  · intro noCounts
    have count := errorCount_ofErrors source errors
    rw [errorCount_eq_total, noCounts] at count
    exact List.eq_nil_of_length_eq_zero count.symm
  · rintro rfl
    rfl

theorem summary_of_ne_nil {inspection : Inspection} (counted : inspection.counts ≠ []) :
    inspection.summary = toString inspection.errorCount ++ " lexical error(s): " ++
      ", ".intercalate
        (inspection.counts.map fun entry => entry.1.display ++ " x" ++ toString entry.2) := by
  unfold summary
  split
  case h_1 noCounts => exact absurd noCounts counted
  case h_2 => rfl

theorem accounts_ofErrors : (ofErrors source errors).Accounts source errors := by
  constructor
  case sourceName => rfl
  case rendered =>
    simp only [ofErrors, DiagnosticLog.addAll, List.nil_append, List.map_map]
    rfl
  case errorCount => exact errorCount_ofErrors source errors
  case counts =>
    refine ⟨tally (errors.map LexicalError.code), isTally_tally _, counts_ofErrors source errors,
      ?_⟩
    intro several
    rw [summary_of_ne_nil (mt (counts_eq_nil_iff source errors).mp several),
      errorCount_ofErrors, counts_ofErrors, List.map_map]
    simp only [Function.comp_def, ErrorCode.diagnosticCode_display]
  case noErrors =>
    rintro rfl
    rfl

end Inspection

/-! ## The two commands -/

theorem decodeText_toUTF8 (text : String) : decodeText text.toUTF8 = .ok text := by
  rw [decodeText, String.fromUTF8?, String.toUTF8_eq_toByteArray, dif_pos text.isValidUTF8]
  rfl

namespace CommandLine

/-- The report of a lexing in a format. -/
def reportOf (lexing : Lexing) : ReportFormat → String
  | .table => lexing.toTable
  | .json => lexing.toDocument

/-- What the two commands make of one source, by what one finds in it and the other shows of it:
they know of the same errors, and a check succeeds where there are none and fails with their number
where there are some. Only a counter that overflows keeps both from a report. -/
inductive Settles (options : LexingOptions) (source : Source)
    (found : Except Failure (Logged Inspection))
    (shown : ReportFormat → Except Failure (Logged String)) : Prop where
  | lexed {lexing : Lexing} {inspected : Logged Inspection}
      (done : lexText options source.content = .ok lexing)
      (inspects : found = .ok inspected)
      (accounts : inspected.value.Accounts source lexing.errors)
      (outcome : Outcome.ofInspection inspected.value =
        if lexing.errors.length = 0 then { output := inspected.value.summary ++ "\n" }
        else Outcome.fail
          { errorOutput := inspected.value.rendered ++ inspected.value.summary ++ "\n" }
          (.lexical source.name lexing.errors.length))
      (succeeds : (Outcome.ofInspection inspected.value).code = 0 ↔ lexing.errors.length = 0)
      (shows : ∀ format, ∃ report, shown format = .ok report ∧
        report.value = reportOf lexing format)
  | overflow (failed : lexText options source.content = .error .counterOverflow)
      (long : counterLimit ≤ source.content.length + 1)
      (inspects : found = .error (.fault .counterOverflow))
      (shows : ∀ format, shown format = .error (.fault .counterOverflow))

theorem ofInspection_ofErrors (source : Source) (errors : List LexicalError) :
    Outcome.ofInspection (.ofErrors source errors) =
      if errors.length = 0 then { output := (Inspection.ofErrors source errors).summary ++ "\n" }
      else Outcome.fail { errorOutput := (Inspection.ofErrors source errors).rendered ++
          (Inspection.ofErrors source errors).summary ++ "\n" }
        (.lexical source.name errors.length) := by
  unfold Outcome.ofInspection
  by_cases clean : errors.length = 0
  · have noCounts :=
      (Inspection.counts_eq_nil_iff source errors).mpr (List.length_eq_zero_iff.mp clean)
    rw [if_pos clean, noCounts]
  · have counted :=
      mt (Inspection.counts_eq_nil_iff source errors).mp (mt List.length_eq_zero_iff.mpr clean)
    rw [if_neg clean, ← Inspection.errorCount_ofErrors source errors]
    split
    case h_1 noCounts => exact absurd noCounts counted
    case h_2 => rfl

section Fetched

variable {m : Type → Type} [Monad m] {α β : Type}

/-- Fetches the source and goes on with it alone. -/
def withSource (host : Host m) (file : Option String) (next : Source → Except Failure α) :
    ExceptT Failure m α := do
  let source ← fetchSource host file
  ExceptT.mk (pure (next source))

/-- What is done with a lexed source does not depend on how it was fetched. -/
theorem fetchSource_lift_bind [LawfulMonad m] (host : Host m) (file : Option String)
    (first : Source → Except Failure α) (next : Source → α → β) :
    (do let source ← fetchSource host file
        let value ← first source
        return next source value : ExceptT Failure m β) =
      withSource host file fun source => (first source).map (next source) := by
  unfold withSource
  congr 1
  funext source
  apply ExceptT.ext
  cases result : first source
  case error => simp [liftM, monadLift, MonadLift.monadLift, Except.map, result]
  case ok => simp [liftM, monadLift, MonadLift.monadLift, Except.map, result]

theorem exists_inspect [LawfulMonad m] (host : Host m) (file : Option String)
    (options : LexingOptions) :
    ∃ next : Source → Logged Lexing → Logged Inspection,
      inspect host file options = withSource host file
        (fun source => (lexSource options source).map (next source)) ∧
      ∀ source lexed, (next source lexed).value = .ofErrors source lexed.value.errors := by
  refine ⟨_, fetchSource_lift_bind host file (lexSource options) _, ?_⟩
  intro source lexed
  rfl

theorem exists_showTokens [LawfulMonad m] (host : Host m) (file : Option String)
    (options : LexingOptions) (format : ReportFormat) :
    ∃ next : Source → Logged Lexing → Logged String,
      showTokens host file format options =
        withSource host file (fun source => (lexSource options source).map (next source)) ∧
      ∀ source lexed, (next source lexed).value = reportOf lexed.value format := by
  refine ⟨_, fetchSource_lift_bind host file (lexSource options) _, ?_⟩
  intro source lexed
  cases format
  case table => simp only [reportOf]
  case json => simp only [reportOf]

theorem runCommand_check [LawfulMonad m] (host : Host m) (settings : Settings)
    (file : Option String) (strict : Bool) {found : Source → Except Failure (Logged Inspection)}
    (inspects : inspect host file (settings.lexer.options strict) = withSource host file found) :
    runCommand host settings (.check file strict) = withSource host file fun source =>
      (found source).map fun inspected =>
        { value := Outcome.ofInspection inspected.value, log := inspected.log } := by
  unfold runCommand
  simp only [inspects, withSource, bind_assoc]
  congr 1
  funext source
  apply ExceptT.ext
  cases result : found source
  case error => simp [Except.map]
  case ok => simp [Except.map]

/-- A check accounts for every error of the source it fetches, and what shows its tokens knows of
the same. -/
theorem inspect_accounts [LawfulMonad m] (host : Host m) (file : Option String)
    (options : LexingOptions) :
    ∃ (found : Source → Except Failure (Logged Inspection))
      (shown : Source → ReportFormat → Except Failure (Logged String)),
      (∀ source, Settles options source (found source) (shown source)) ∧
      inspect host file options = withSource host file found ∧
      (∀ format, showTokens host file format options = withSource host file (shown · format)) ∧
      ∀ settings strict, settings.lexer.options strict = options →
        runCommand host settings (.check file strict) = withSource host file fun source =>
          (found source).map fun inspected =>
            { value := Outcome.ofInspection inspected.value, log := inspected.log } := by
  obtain ⟨inspection, inspects, isOfErrors⟩ := exists_inspect host file options
  choose report shows isReport using exists_showTokens host file options
  refine ⟨_, fun source format => (lexSource options source).map (report format source), ?_,
    inspects, shows, ?_⟩
  · intro source
    rcases lexText_cases options source.content with ⟨lexing, done⟩ | ⟨failed, long⟩
    · have lexes : ∃ log, lexSource options source = .ok ⟨lexing, log⟩ :=
        ⟨_, by rw [lexSource, done]⟩
      obtain ⟨log, lexed⟩ := lexes
      simp only [lexed]
      have value := isOfErrors source ⟨lexing, log⟩
      have accounts := Inspection.accounts_ofErrors source lexing.errors
      have outcome := ofInspection_ofErrors source lexing.errors
      rw [← value] at accounts outcome
      apply Settles.lexed done rfl accounts outcome
      · rw [outcome]
        by_cases clean : lexing.errors.length = 0
        · simp [clean]
        · simp [clean, Outcome.fail]
      · intro format
        exact ⟨_, rfl, isReport format source ⟨lexing, log⟩⟩
    · have failure : lexSource options source = .error (.fault .counterOverflow) := by
        rw [lexSource, failed]
      simp only [failure]
      exact .overflow failed long rfl fun format => rfl
  · rintro settings strict rfl
    exact runCommand_check host settings file strict inspects

end Fetched

/-- The four errors of two lines read from the input are counted under three codes. -/
theorem inspect_accounts_fourErrors :
    ∃ inspected : Logged Inspection,
      inspect (FileTree.host "== != 5a\nx = = @\n".toUTF8) none {} = pure inspected ∧
      inspected.value.errorCount = 4 ∧ (Outcome.ofInspection inspected.value).code = 1 ∧
      ∃ counts, IsTally counts
          [ErrorCode.operatorSequence, .illegalIdentifier, .operatorSequence, .unrecognized] ∧
        inspected.value.counts = counts.map fun entry => (entry.1.diagnosticCode, entry.2) := by
  obtain ⟨found, shown, settles, inspects, _⟩ :=
    @inspect_accounts (StateM FileTree) _ _ (FileTree.host "== != 5a\nx = = @\n".toUTF8) none {}
  have fetched : fetchSource (FileTree.host "== != 5a\nx = = @\n".toUTF8) none =
      pure { name := inputName, content := "== != 5a\nx = = @\n" } := by
    simp only [fetchSource, Option.filter_none, Host.readInputText, FileTree.host,
      pure_bind, Except.bind, decodeText_toUTF8]
    rfl
  rw [withSource, fetched, pure_bind] at inspects
  have codes :
      (lexText {} "== != 5a\nx = = @\n").map (fun lexing => lexing.errors.map LexicalError.code) =
        .ok [.operatorSequence, .illegalIdentifier, .operatorSequence, .unrecognized] := by
    decide +kernel
  cases settles { name := inputName, content := "== != 5a\nx = = @\n" }
  case lexed lexing inspected done isFound accounts outcome _ _ =>
    rw [done] at codes
    have same : lexing.errors.map LexicalError.code =
        [.operatorSequence, .illegalIdentifier, .operatorSequence, .unrecognized] :=
      Except.ok.inj codes
    have four : lexing.errors.length = 4 := by
      rw [← List.length_map LexicalError.code, same]
      rfl
    obtain ⟨counts, tallied, isCounts, _⟩ := accounts.counts
    refine ⟨inspected, ?_, accounts.errorCount.trans four, ?_, counts, same ▸ tallied, isCounts⟩
    · rw [inspects, isFound]
      rfl
    · rw [outcome, four]
      rfl
  case overflow failed _ _ _ =>
    rw [failed] at codes
    cases codes

end CommandLine

end ScriptLexer
