import CommitLint.Proofs.SkippedMessages
import Mathlib

/-!
# Printed reports

A check that writes text prints one block for each report. What the blocks start with, which of them
are left out when the check is quiet, and the exit code are found out in ways of their own; they
agree because the report of a skipped message lists no violations, and because a report that fails
the check is never left out.

* `Mark.leads_iff` — a block starts with one mark only;
* `shortSha?_digits` — the digits by which a commit is cited are always there;
* `Report.Made.shows` — what is printed about one report;
* `printed_agree` — what is printed about all of them, and the exit code.
-/

namespace CommitLint

open Terminal

/-! ### Marks -/

/-- What a printed report may say of its message: that it was skipped, fails the check, or passes
it. -/
inductive Mark
  | skipped
  | failed
  | passed
  deriving DecidableEq, Repr

namespace Mark

/-- The mark as it stands at the start of a line. -/
def piece : Mark → Piece
  | skipped => dim "-"
  | failed => bold .red "✗"
  | passed => bold .green "✓"

end Mark

/-- The characters of a text up to its first line feed. -/
def firstLine (text : String) : List Char := text.toList.takeWhile (· ≠ '\n')

/-- Whether the first line of a block starts with a mark. -/
def Mark.Leads (mark : Mark) (styled : Bool) (block : String) : Prop :=
  (mark.piece.render styled).toList <+: firstLine block

namespace Mark

theorem newline_not_mem_render (mark : Mark) (styled : Bool) :
    '\n' ∉ (mark.piece.render styled).toList := by
  cases mark <;> cases styled <;> decide

theorem eq_of_render {mark other : Mark} {styled : Bool}
    (h : (mark.piece.render styled).toList <+: (other.piece.render styled).toList) :
    mark = other := by
  revert h
  cases mark <;> cases other <;> cases styled <;> decide

/-- A block starts with one mark only. -/
theorem leads_iff {mark other : Mark} {styled : Bool} {block rest : String}
    (eq : block = mark.piece.render styled ++ rest) : other.Leads styled block ↔ mark = other := by
  have line : firstLine block = (mark.piece.render styled).toList ++ firstLine rest := by
    rw [firstLine, eq, String.toList_append, List.takeWhile_append_of_pos, firstLine]
    intro c mem
    rw [decide_eq_true_iff]
    intro newline
    exact newline_not_mem_render mark styled (newline ▸ mem)
  rw [Leads, line]
  constructor
  · intro starts
    rcases List.prefix_or_prefix_of_prefix starts (List.prefix_append _ _) with within | beyond
    · exact (eq_of_render within).symm
    · exact eq_of_render beyond
  · intro same
    rw [same]
    exact List.prefix_append _ _

end Mark

/-! ### Citing commits -/

/-- Characters are taken whole if the bytes that are asked for end with one of them, or there are no
more. -/
theorem Report.byteTake?_append {size : Nat} {front rest : List Char}
    (whole : String.utf8Len front = min size (String.utf8Len (front ++ rest))) :
    Report.byteTake? size (front ++ rest) = some front := by
  induction front generalizing size with
  | nil =>
    cases rest with
    | nil => rfl
    | cons c rest =>
      have positive := c.utf8Size_pos
      rw [List.nil_append, String.utf8Len_cons] at whole
      have zero : size = 0 := by
        simp only [String.utf8Len_nil] at whole
        omega
      rw [List.nil_append, Report.byteTake?, if_pos zero]
  | cons c front ih =>
    have positive := c.utf8Size_pos
    rw [List.cons_append, String.utf8Len_cons, String.utf8Len_cons] at whole
    have left : String.utf8Len front = min (size - c.utf8Size)
        (String.utf8Len (front ++ rest)) := by omega
    rw [List.cons_append, Report.byteTake?, if_neg (by omega), if_pos (by omega), ih left]
    rfl

theorem utf8Len_of_single {cs : List Char} (single : ∀ c ∈ cs, c.utf8Size = 1) :
    String.utf8Len cs = cs.length := by
  induction cs with
  | nil => rfl
  | cons c cs ih =>
    rw [List.forall_mem_cons] at single
    rw [String.utf8Len_cons, single.1, ih single.2, List.length_cons]

/-- Of characters of one byte as many are taken as bytes are asked for. -/
theorem byteTake?_of_single (size : Nat) {cs : List Char} (single : ∀ c ∈ cs, c.utf8Size = 1) :
    Report.byteTake? size cs = some (cs.take size) := by
  have first : ∀ c ∈ cs.take size, c.utf8Size = 1 :=
    fun c mem => single c (List.mem_of_mem_take mem)
  have whole : String.utf8Len (cs.take size) =
      min size (String.utf8Len (cs.take size ++ cs.drop size)) := by
    rw [List.take_append_drop, utf8Len_of_single single, utf8Len_of_single first, List.length_take]
  have taken := Report.byteTake?_append whole
  rwa [List.take_append_drop] at taken

/-- A commit is cited by the first digits of its identifier. -/
theorem shortSha?_digits (id : ObjectId) :
    Report.shortSha? id.digits = some (String.ofList
      (id.digits.toList.take Report.shortShaSize)) := by
  rw [Report.shortSha?, byteTake?_of_single _ fun c mem =>
    utf8Size_of_isIdDigit (List.all_eq_true.1 id.hex c mem)]
  rfl

/-! ### One report -/

/-- A report that is made of a message, and perhaps cites a commit. -/
inductive Report.Made : Report → Prop
  | lint (config : Config) (m : Message) (id? : Option ObjectId) :
    Made ((config.lint m).citing (id?.map ObjectId.digits))

/-- What is printed about a report is a block, and its first line starts with the mark that belongs
to it. -/
structure Report.Shows (styled : Bool) (r : Report) (block : String) : Prop where
  /-- The block is what is printed. -/
  printed : r.print? styled = some block
  /-- The message was skipped. -/
  skipped : Mark.skipped.Leads styled block ↔ r.ignored = true
  /-- Some violation is an error. -/
  failed : Mark.failed.Leads styled block ↔ ∃ v ∈ r.violations, v.severity = .error
  /-- Neither of both. -/
  passed : Mark.passed.Leads styled block ↔
  r.ignored = false ∧ ∀ v ∈ r.violations, v.severity ≠ .error

namespace Report

variable {r : Report} {styled : Bool} {written : String}

theorem isValid_iff (r : Report) : r.isValid = true ↔ ∀ v ∈ r.violations, v.severity ≠ .error := by
  simp [isValid, errorCount, errors, Violation.isError]

def block (styled : Bool) (r : Report) : String := (r.print? styled).getD ""

/-- What a printed report says of its message. -/
def status (r : Report) : Mark :=
  if r.ignored then .skipped else if r.isValid then .passed else .failed

theorem mark_eq (r : Report) : r.mark = r.status.piece := by
  rw [mark, status]
  split
  · rfl
  · split <;> rfl

/-- A printed report starts with its mark. -/
theorem exists_rest_of_print? (printed : r.print? styled = some written) :
    ∃ rest, written = r.status.piece.render styled ++ rest := by
  obtain ⟨head, headed, rfl⟩ := Option.map_eq_some_iff.1 printed
  rw [headline?, mark_eq] at headed
  split at headed
  · obtain rfl := Option.some.inj headed
    exact ⟨" " ++ r.header ++ "\n" ++ r.details styled, by simp only [String.append_assoc]⟩
  · obtain ⟨short, -, rfl⟩ := Option.map_eq_some_iff.1 headed
    exact ⟨" " ++ (plain .cyan short).render styled ++ " " ++ r.header ++ "\n" ++ r.details styled,
      by simp only [String.append_assoc]⟩

namespace Made

/-- Nothing is found in a message that is skipped. -/
theorem violations_of_ignored (made : r.Made) (ignored : r.ignored = true) : r.violations = [] := by
  cases made with
  | lint config m id? =>
    have marks : config.Marks m := (config.ignored_lint_iff m).1 ignored
    show (config.lint m).violations = []
    rw [Config.lint_of_marks marks]
    rfl

/-- A report that is made can be printed. -/
theorem exists_print? (made : r.Made) (styled : Bool) :
    ∃ written, r.print? styled = some written := by
  cases made with
  | lint config m id? =>
    cases id? with
    | none => exact ⟨_, rfl⟩
    | some id => exact Option.isSome_iff_exists.1 ((config.lint m).print?_isSome_ofCommit id styled)

/-- What is printed about a report that is made. -/
theorem shows (made : r.Made) (printed : r.print? styled = some written) :
    r.Shows styled written := by
  obtain ⟨rest, eq⟩ := exists_rest_of_print? printed
  have marked (mark : Mark) : mark.Leads styled written ↔ r.status = mark := Mark.leads_iff eq
  have valid := r.isValid_iff
  refine ⟨printed, ?_, ?_, ?_⟩
  · rw [marked, status]
    cases r.ignored <;> cases r.isValid <;> simp
  · rw [marked, status]
    cases ignored : r.ignored with
    | true => simp [made.violations_of_ignored ignored]
    | false =>
      have failing : r.isValid = false ↔ ∃ v ∈ r.violations, v.severity = .error := by
        rw [← Bool.not_eq_true, valid]
        push Not
        rfl
      rw [← failing]
      cases r.isValid <;> simp
  · rw [marked, status, ← valid]
    cases r.ignored <;> cases r.isValid <;> simp

theorem shows_block (made : r.Made) (styled : Bool) : r.Shows styled (r.block styled) := by
  obtain ⟨written, printed⟩ := made.exists_print? styled
  rw [block, printed]
  exact made.shows printed

end Made

end Report

/-! ### All reports -/

/-- The blocks of the reports that list violations. -/
def noted (reports : List Report) (blocks : List String) : List String :=
  ((reports.zip blocks).filter fun b => !b.1.violations.isEmpty).map Prod.snd

/-- What a check prints, what it prints when it is quiet, and its exit code when it is not
strict. -/
structure SameStory (styled : Bool) (reports : List Report) (blocks : List String)
    (ending : Bool → Bool → Ending) :
    Prop where
  /-- Each report has a block. -/
  shown : List.Forall₂ (Report.Shows styled) reports blocks
  /-- The blocks are printed one after the other. -/
  loud : ∀ strict, (ending false strict).output = String.join blocks
  /-- A quiet check leaves out those of reports without violations. -/
  hushed : ∀ strict, (ending true strict).output = String.join (noted reports blocks)
  /-- The check fails when some block that is printed is marked as failing. -/
  exit : (ending false false).exitCode = 1 ↔ ∃ block ∈ blocks, Mark.failed.Leads styled block
  /-- The same holds of the blocks that a quiet check prints. -/
  exitHushed : (ending true false).exitCode = 1 ↔
  ∃ block ∈ noted reports blocks, Mark.failed.Leads styled block

theorem noted_map_block (styled : Bool) (reports : List Report) :
    noted reports (reports.map (·.block styled)) =
      (reports.filter fun r => !r.violations.isEmpty).map (·.block styled) := by
  induction reports with
  | nil => rfl
  | cons r reports ih =>
    rw [noted] at ih ⊢
    by_cases none : r.violations.isEmpty = true <;> simp [none, ih]

theorem reportsText_eq (styled quiet : Bool) (reports : List Report) :
    Listing.reportsText styled quiet reports =
      if quiet then String.join (noted reports (reports.map (·.block styled)))
      else String.join (reports.map (·.block styled)) := by
  rw [noted_map_block]
  cases quiet with
  | false => simp [Listing.reportsText, Report.block]
  | true => rfl

/-- A check that is not strict fails when some violation is an error. -/
theorem isRejected_false_iff (reports : List Report) :
    isRejected false reports = true ↔ ∃ r ∈ reports, ∃ v ∈ r.violations, v.severity = .error := by
  rw [isRejected_iff, totalErrors_eq, List.length_pos_iff_exists_mem, or_iff_left (by simp)]
  simp only [violationsOf, List.mem_flatMap, List.mem_filter, decide_eq_true_iff]
  constructor
  · intro h
    obtain ⟨v, r, mem, inside, error⟩ := h
    exact ⟨r, mem, v, inside, error⟩
  · intro h
    obtain ⟨r, mem, v, inside, error⟩ := h
    exact ⟨v, r, mem, inside, error⟩

/-- The ending with some reports tells one story. -/
theorem sameStory_ofReports {reports : List Report} (made : ∀ r ∈ reports, r.Made) (styled : Bool)
    (i : Invocation)
    (a : CheckArguments) {format : Option Format} (text : format ≠ some .json) :
    SameStory styled reports (reports.map (·.block styled))
      fun quiet strict => .ofReports (i.checking a format quiet strict) styled strict reports := by
  have shown : ∀ r ∈ reports, r.Shows styled (r.block styled) :=
    fun r mem => (made r mem).shows_block styled
  have failing (r : Report) (mem : r ∈ reports) :
      Mark.failed.Leads styled (r.block styled) ↔ ∃ v ∈ r.violations, v.severity = .error :=
        (shown r mem).failed
  have exits (quiet : Bool) :
      (Ending.ofReports (i.checking a format quiet false) styled false reports).exitCode = 1 ↔
        ∃ r ∈ reports, ∃ v ∈ r.violations, v.severity = .error := by
    rw [exitCode_ofReports, ← isRejected_false_iff]
    simp
  refine ⟨?_, ?_, ?_, ?_, ?_⟩
  · rw [List.forall₂_map_right_iff, List.forall₂_same]
    exact shown
  · intro strict
    rw [output_ofReports, if_neg text, reportsText_eq, if_neg Bool.false_ne_true]
  · intro strict
    rw [output_ofReports, if_neg text, reportsText_eq, if_pos rfl]
  · rw [exits]
    simp only [List.mem_map, exists_exists_and_eq_and]
    exact exists_congr fun r => and_congr_right fun mem => (failing r mem).symm
  · rw [exits, noted_map_block]
    simp only [List.mem_map, exists_exists_and_eq_and]
    -- A report in which something is an error is not left out.
    constructor
    · intro h
      obtain ⟨r, mem, v, inside, error⟩ := h
      have listed : (!r.violations.isEmpty) = true := by simpa using List.ne_nil_of_mem inside
      exact ⟨r, List.mem_filter.2 ⟨mem, listed⟩, (failing r mem).2 ⟨v, inside, error⟩⟩
    · intro h
      obtain ⟨r, mem, leads⟩ := h
      have known := (List.mem_filter.1 mem).1
      exact ⟨r, known, (failing r known).1 leads⟩

/-! ### Checks -/

theorem Report.made_lint (config : Config) (m : Message) : (config.lint m).Made := by
  rw [← citing_commitSha (commitSha_lint config m)]
  exact .lint config m none

theorem Report.made_lintCommit (config : Config) (c : Workspace.CommitMessage) :
    (config.lintCommit c).Made :=
  .lint config (Message.parse c.2) (some c.1)

/-- The reports of a check are made of messages, and cite commits of the history or none. -/
theorem made_of_reports {w : Workspace} {input : ByteArray} {config : Config} {source : Source}
    {reports : List Report}
    (obtained : w.reports input config source = .ok reports) : ∀ r ∈ reports, r.Made := by
  intro r mem
  cases source with
  | standardInput =>
    obtain ⟨text, -, rfl⟩ := exists_ok_of_map_mapError obtained
    obtain rfl := List.mem_singleton.1 mem
    exact Report.made_lint config _
  | file path =>
    obtain ⟨text, -, rfl⟩ := exists_ok_of_map_mapError obtained
    obtain rfl := List.mem_singleton.1 mem
    exact Report.made_lint config _
  | commit revision =>
    obtain ⟨c, -, rfl⟩ := exists_ok_of_map_mapError obtained
    obtain rfl := List.mem_singleton.1 mem
    exact Report.made_lintCommit config c
  | range range =>
    obtain ⟨cs, -, rfl⟩ := exists_ok_of_map_mapError obtained
    obtain ⟨c, -, rfl⟩ := List.mem_map.1 mem
    exact Report.made_lintCommit config c

/-- **What a check prints agrees with its exit code.** Of any reports that are made of messages,
printed as text, each has a block: its first line starts with a dash if the message was skipped,
with a cross if some violation is an error, and with a tick otherwise. The blocks are printed one
after the other; a quiet check leaves out those of the reports without violations, and no others.
When the check is not strict, the exit code is 1 exactly when some block that is printed has a
cross, whether the check is quiet or not. All reports of a check are made in this way, and the
commits among them are cited by the first digits of their identifiers, so that nothing goes wrong
when they are printed. -/
theorem printed_agree :
    (∀ id : ObjectId, Report.shortSha? id.digits = some (String.ofList (id.digits.toList.take 7))) ∧
    (∀ reports : List Report, (∀ r ∈ reports, r.Made) →
      ∀ (styled : Bool) (i : Invocation) (a : CheckArguments) (format : Option Format),
        format ≠ some .json →
        ∃ blocks, SameStory styled reports blocks
          fun quiet strict => .ofReports (i.checking a format quiet strict) styled strict reports) ∧
    ∀ (w : Workspace) (build : Build) (styled : Bool) (input : ByteArray) (i : Invocation)
      (a : CheckArguments) (config : Config) (reports : List Report),
      w.chosenConfig i.config = .ok config →
      w.reports input config a.source = .ok reports →
      (∀ r ∈ reports, r.Made) ∧ ∀ format : Option Format, format ≠ some .json →
        ∃ blocks, SameStory styled reports blocks
          fun quiet strict => (w.run build styled input (i.checking a format quiet strict)).1 := by
  refine ⟨shortSha?_digits, ?_, ?_⟩
  · intro reports made styled i a format text
    exact ⟨_, sameStory_ofReports made styled i a text⟩
  · intro w build styled input i a config reports loaded obtained
    refine ⟨made_of_reports obtained, ?_⟩
    intro format text
    simp only [run_checking loaded obtained]
    exact ⟨_, sameStory_ofReports (made_of_reports obtained) styled i a text⟩

/-- The two commits of the range are both printed, with crosses, and a quiet check leaves none of
them out. -/
theorem printed_agree_merged :
    let reports := mergedMessages.map Config.standard.lintCommit
    let ending := fun quiet strict => (mergedPlace.run ⟨"0.1.0", none, none⟩ false .empty
      (Invocation.checking ⟨.version, true, false, false, none, none⟩ (.ofRange "left..") none
        quiet strict)).1
    ∃ first second, SameStory false reports [first, second] ending ∧
    noted reports [first, second] = [first, second] ∧
      Mark.failed.Leads false first ∧ Mark.failed.Leads false second ∧
      (ending true false).exitCode = 1 := by
  intro reports ending
  have loaded : mergedPlace.chosenConfig none = .ok .standard := by decide +kernel
  have obtained : mergedPlace.reports .empty .standard (.range "left..") = .ok reports := by
    rw [reports_range, commits_merged]
    rfl
  obtain ⟨-, -, runs⟩ := printed_agree
  obtain ⟨blocks, story⟩ := (runs mergedPlace ⟨"0.1.0", none, none⟩ false .empty
    ⟨.version, true, false, false, none, none⟩ (.ofRange "left..") _ reports loaded obtained).2
      none (by decide)
  obtain ⟨first, second, rfl⟩ : ∃ first second, blocks = [first, second] :=
    List.length_eq_two.1 story.shown.length_eq.symm
  obtain ⟨one, two⟩ := List.forall₂_cons.1 story.shown
  have crossed : ∀ r ∈ reports, ∃ v ∈ r.violations, v.severity = .error := by decide +kernel
  have leads : Mark.failed.Leads false first := one.failed.2 (crossed _ List.mem_cons_self)
  have kept : noted reports [first, second] = [first, second] := rfl
  refine ⟨first, second, story, kept, leads, ?_, ?_⟩
  · exact (List.forall₂_cons.1 two).1.failed.2
      (crossed _ (List.mem_cons_of_mem _ List.mem_cons_self))
  · rw [story.exitHushed, kept]
    exact ⟨first, List.mem_cons_self, leads⟩

end CommitLint
