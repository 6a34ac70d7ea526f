import CommitLint.Proofs.CheckContract
import CommitLint.Proofs.NewCommits
import Mathlib

/-!
# Reports of a range

A range is checked commit by commit. Its reports are those that each of its commits has when it is
checked alone, in their order, and it is rejected exactly when one of them is.

* `findCommit_digits_of_commitsIn` — the commits of a range are found again by their identifiers;
* `reports_range_of_no_sides` — what has no sides is checked as one commit;
* `isRejected_iff_exists` — reports are rejected exactly when one of them is;
* `range_pointwise` — a range and its commits.
-/

namespace CommitLint

/-! ### Commits of a range -/

namespace History

variable {h : History} {range : String} {found : List (ObjectId × Commit)}

theorem object?_of_commit? {id : ObjectId} {c : Commit} (recorded : h.commit? id = some c) :
    h.object? id = some (.commit c) := by
  rw [commit?] at recorded
  split at recorded
  · next stored =>
    obtain rfl := Option.some.inj recorded
    exact stored
  · cases recorded

/-- The ways in which the commits of a range are listed. -/
theorem commitsIn_cases (listed : h.commitsIn range = .ok found) :
    (∃ c, h.findCommit range = .ok c ∧ found = [c]) ∨
    ∃ since upTo, h.commitsBetween since upTo = .ok found := by
  cases sides : sides? range with
  | none =>
    rw [commitsIn_of_no_sides sides, map_eq_ok_iff] at listed
    obtain ⟨c, single, one⟩ := listed
    exact .inl ⟨c, single, one.symm⟩
  | some both =>
    obtain ⟨since, upTo⟩ := both
    rw [commitsIn_of_sides? sides, bind_eq_ok_iff] at listed
    obtain ⟨a, -, listed⟩ := listed
    obtain ⟨b, -, between⟩ := bind_eq_ok_iff.1 listed
    exact .inr ⟨a.1, b.1, between⟩

/-- The commits of a range are found again by their identifiers. -/
theorem findCommit_digits_of_commitsIn (listed : h.commitsIn range = .ok found) :
    ∀ c ∈ found, h.findCommit c.1.digits = .ok c := by
  rintro ⟨id, c⟩ mem
  rcases commitsIn_cases listed with ⟨single, named, rfl⟩ | ⟨since, upTo, between⟩
  · obtain rfl := List.mem_singleton.1 mem
    exact findCommit_digits_of_findCommit named
  · exact findCommit_digits (object?_of_commit? ((mem_commitsBetween_iff between).1 mem).2)

theorem nodup_of_commitsIn (listed : h.commitsIn range = .ok found) :
    (found.map Prod.fst).Nodup := by
  rcases commitsIn_cases listed with ⟨single, -, rfl⟩ | ⟨since, upTo, between⟩
  · exact List.nodup_singleton _
  · rw [map_fst_commitsBetween between]
    exact h.nodup_newCommits since upTo

end History

/-! ### Reports of the commits -/

section

variable {w : Workspace} {input : ByteArray} {config : Config} {range : String}

/-- The messages of a range are those of its commits in the history. -/
theorem exists_commitsIn_of_commits {cs : List Workspace.CommitMessage}
    (listed : w.commits range = .ok cs) :
    ∃ h found, w.history = .ok h ∧ h.commitsIn range = .ok found ∧
    cs = found.map fun c => (c.1, c.2.text) := by
  rw [Workspace.commits, bind_eq_ok_iff] at listed
  obtain ⟨h, opened, listed⟩ := listed
  obtain ⟨found, inRange, same⟩ := bind_eq_ok_iff.1 listed
  exact ⟨h, found, opened, inRange, (Except.ok.inj same).symm⟩

/-- The message of a commit in a range is that of the commit alone. -/
theorem commit_digits_of_commits {cs : List Workspace.CommitMessage}
    (listed : w.commits range = .ok cs) :
    ∀ c ∈ cs, w.commit c.1.digits = .ok c := by
  obtain ⟨h, found, opened, inRange, rfl⟩ := exists_commitsIn_of_commits listed
  intro c mem
  obtain ⟨commit, inside, rfl⟩ := List.mem_map.1 mem
  rw [commit_of_history opened, History.findCommit_digits_of_commitsIn inRange commit inside]
  rfl

/-- A text without sides is checked as one commit is. -/
theorem reports_range_of_no_sides (single : History.sides? range = none) :
    w.reports input config (.range range) = w.reports input config (.commit range) := by
  rw [reports_range, reports_commit]
  cases opened : w.history with
  | error e =>
    rw [Workspace.commits, Workspace.commit, opened]
    rfl
  | ok h =>
    rw [commits_of_history opened, commit_of_history opened, History.commitsIn_of_no_sides single]
    cases h.findCommit range <;> rfl

end

/-! ### Verdicts -/

/-- Reports are rejected exactly when one of them is. -/
theorem isRejected_iff_exists (strict : Bool) (reports : List Report) :
    isRejected strict reports = true ↔ ∃ r ∈ reports, isRejected strict [r] = true := by
  induction reports with
  | nil => simp [isRejected, totalErrors, totalWarnings]
  | cons r reports ih =>
    have errors : totalErrors (r :: reports) = totalErrors [r] + totalErrors reports := rfl
    have warnings : totalWarnings (r :: reports) = totalWarnings [r] + totalWarnings reports := rfl
    have split : isRejected strict (r :: reports) = true ↔
        isRejected strict [r] = true ∨ isRejected strict reports = true := by
      rw [isRejected_iff, isRejected_iff, isRejected_iff, errors, warnings]
      cases strict with
      | false => simp
      | true =>
        simp only [true_and]
        omega
    rw [split, ih, List.exists_mem_cons_iff]

/-! ### Ranges and their commits -/

/-- What is asked for when a commit is checked alone. -/
def CheckArguments.ofCommit (revision : String) : CheckArguments :=
  ⟨none, some revision, none, false⟩

/-- What is asked for when a range is checked. -/
def CheckArguments.ofRange (range : String) : CheckArguments := ⟨none, none, some range, false⟩

/-- A message and a report are those of a commit that is looked for by its identifier. -/
structure CheckedAlone (w : Workspace) (config : Config) (c : Workspace.CommitMessage)
    (r : Report) : Prop where
  /-- The commit is recorded, and the message is what its bytes stand for. -/
  recorded : ∃ h commit, w.history = .ok h ∧ h.commit? c.1 = some commit ∧ c.2 = commit.text
  /-- The commit is found with this message. -/
  message : w.commit c.1.digits = .ok c
  /-- A check of the commit has this report, and no other. -/
  report : ∀ input, w.reports input config (.commit c.1.digits) = .ok [r]
  /-- The report cites the commit. -/
  cited : r.commitSha = some c.1.digits

section

variable {w : Workspace} {config : Config} {range : String}

theorem checkedAlone_of_commits {cs : List Workspace.CommitMessage}
    (listed : w.commits range = .ok cs) :
    ∀ c ∈ cs, CheckedAlone w config c (config.lintCommit c) := by
  intro c mem
  have message := commit_digits_of_commits listed c mem
  refine ⟨?_, message, fun input => ?_, rfl⟩
  · obtain ⟨h, found, opened, inRange, rfl⟩ := exists_commitsIn_of_commits listed
    obtain ⟨⟨id, commit⟩, inside, rfl⟩ := List.mem_map.1 mem
    have stored :=
      History.object?_of_findCommit (History.findCommit_digits_of_commitsIn inRange _ inside)
    refine ⟨h, commit, opened, ?_, rfl⟩
    rw [History.commit?, stored]
  · rw [reports_commit, message]
    rfl

/-- The exit code of a check is that of its verdict. -/
theorem exitCode_eq_one_iff_isRejected {build : Build} {styled : Bool} {input : ByteArray}
    {i : Invocation}
    {a : CheckArguments} {reports : List Report} (loaded : w.chosenConfig i.config = .ok config)
    (obtained : w.reports input config a.source = .ok reports) (format : Option Format)
    (quiet strict : Bool) :
    (w.run build styled input (i.checking a format quiet strict)).1.exitCode = 1 ↔
      isRejected strict reports = true := by
  rw [run_checking loaded obtained, exitCode_ofReports]
  cases isRejected strict reports <;> simp

/-- **A range is checked commit by commit.** When the reports of a range are obtained, they are
those of its commits, one for each and in the order of the range; no commit stands twice. Each
report and each message are those that the commit has when it is looked for by its identifier alone.
A range in which no two dots stand has the one report of the commit that it names. With the same
configuration, and the same strictness, the check of a range ends with the exit code 1 exactly when
the check of one of its commits does, however each of them is printed, and with 0 when there is
none. -/
theorem range_pointwise {input : ByteArray} {reports : List Report}
    (obtained : w.reports input config (.range range) = .ok reports) :
    ∃ cs, w.commits range = .ok cs ∧
      (cs.map Prod.fst).Nodup ∧
      List.Forall₂ (CheckedAlone w config) cs reports ∧
      (¬ History.dots <:+: range.toList →
        ∃ r, reports = [r] ∧ ∀ other, w.reports other config (.commit range) = .ok [r]) ∧
      ∀ (build : Build) (styled : Bool) (i : Invocation), w.chosenConfig i.config = .ok config →
        ∀ strict : Bool,
          let exit := fun format quiet a =>
            (w.run build styled input (i.checking a format quiet strict)).1.exitCode
          (∀ format quiet other hushed,
            exit format quiet (.ofRange range) = 1 ↔
            ∃ c ∈ cs, exit other hushed (.ofCommit c.1.digits) = 1) ∧
          (cs = [] → ∀ format quiet, exit format quiet (.ofRange range) = 0) := by
  obtain ⟨cs, listed, rfl⟩ :=
    exists_ok_of_map_mapError ((reports_range config range).symm.trans obtained)
  have alone : ∀ c ∈ cs, CheckedAlone w config c (config.lintCommit c) :=
    checkedAlone_of_commits listed
  refine ⟨cs, listed, ?_, ?_, ?_, ?_⟩
  · obtain ⟨h, found, -, inRange, rfl⟩ := exists_commitsIn_of_commits listed
    rw [List.map_map]
    exact History.nodup_of_commitsIn inRange
  · rw [List.forall₂_map_right_iff, List.forall₂_same]
    exact alone
  · intro plain
    have single : History.sides? range = none := (History.sides?_eq_none_iff range).2 plain
    have same : ∀ other, w.reports other config (.commit range) =
        .ok (cs.map config.lintCommit) := by
      intro other
      rw [← reports_range_of_no_sides single, reports_range, listed]
      rfl
    -- A check of a commit has one report, so that there is one commit here.
    have checked : ((w.commit range).mapError Failure.history).map
        (fun c => [config.lintCommit c]) =
        .ok (cs.map config.lintCommit) := same input
    obtain ⟨c, -, one⟩ := exists_ok_of_map_mapError checked
    exact ⟨config.lintCommit c, one.symm, fun other => one ▸ same other⟩
  · intro build styled i loaded strict exit
    refine ⟨?_, ?_⟩
    · intro format quiet other hushed
      have verdict : exit format quiet (.ofRange range) = 1 ↔
          isRejected strict (cs.map config.lintCommit) = true :=
        exitCode_eq_one_iff_isRejected (a := .ofRange range) loaded obtained format quiet strict
      -- How the reports are printed has no part in the verdict.
      rw [verdict, isRejected_iff_exists]
      simp only [List.mem_map, exists_exists_and_eq_and]
      refine exists_congr fun c => and_congr_right fun mem => ?_
      exact (exitCode_eq_one_iff_isRejected (a := .ofCommit c.1.digits) loaded
        ((alone c mem).report input) other hushed strict).symm
    · rintro rfl format quiet
      have none : exit format quiet (.ofRange range) = _ :=
        exitCode_checking (a := .ofRange range) loaded obtained format quiet strict
      simpa [violationsOf] using none

end

/-! ### A range of two commits -/

open History

/-- A workspace whose repository has the history with a merge. -/
def mergedPlace : Workspace where
  files := ⟨[([".git"], .directory), ([".git", "HEAD"], .file mergeId.digits.toUTF8),
    ([".git", "objects"], .directory), ([".git", "refs"], .directory)], [], .whole⟩
  place := []
  «variables» := ⟨none, none, none⟩
  repositories := [([".git"], merged)]

/-- The messages of the two commits that are no ancestors of the left one, as they are read. -/
def mergedMessages : List Workspace.CommitMessage :=
  [(rightId, "fix: caf\uFFFD"), (mergeId, "fix: caf\uFFFD")]

theorem commits_merged : mergedPlace.commits "left.." = .ok mergedMessages := by
  have new : merged.newCommits leftId mergeId = [rightId, mergeId] := by cbv
  have listed : merged.commitsIn "left.." = merged.commitsBetween leftId mergeId :=
    commitsIn_of_found (sides?_of_dots divided_merged (by decide)) findCommit_left_merged
      findCommit_head_merged
  rw [commits_of_history (show mergedPlace.history = .ok merged from rfl), listed, commitsBetween,
    missingParent?_eq_none complete_merged, new]
  decide +kernel

/-- Both commits have the reports that they have alone, and the range is rejected because one of
them is. -/
theorem range_pointwise_merged :
    let exit := fun a => (mergedPlace.run ⟨"0.1.0", none, none⟩ false .empty
      (Invocation.checking ⟨.version, true, false, false, none, none⟩ a none false
        false)).1.exitCode
    let reports := mergedMessages.map Config.standard.lintCommit
    mergedPlace.reports .empty .standard (.range "left..") = .ok reports ∧
    List.Forall₂ (CheckedAlone mergedPlace .standard) mergedMessages reports ∧
    exit (.ofRange "left..") = 1 ∧ ∃ c ∈ mergedMessages, exit (.ofCommit c.1.digits) = 1 := by
  intro exit reports
  have obtained : mergedPlace.reports .empty .standard (.range "left..") = .ok reports := by
    rw [reports_range, commits_merged]
    rfl
  have loaded : mergedPlace.chosenConfig none = .ok .standard := by decide +kernel
  obtain ⟨cs, listed, -, alone, -, exits⟩ := range_pointwise obtained
  obtain rfl : mergedMessages = cs := Except.ok.inj (commits_merged.symm.trans listed)
  have verdict : exit (.ofRange "left..") = 1 ↔ _ :=
    (exits _ false _ loaded false).1 none false none false
  have rejected : exit (.ofRange "left..") = 1 :=
    (exitCode_eq_one_iff_isRejected (a := .ofRange "left..") loaded obtained none false false).2
      (by decide +kernel)
  exact ⟨obtained, alone, rejected, verdict.1 rejected⟩

end CommitLint
