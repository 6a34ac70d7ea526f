import CommitLint.Log
import CommitLint.Proofs.EffectiveRules
import CommitLint.Proofs.Outcome
import CommitLint.Proofs.Verdict
import CommitLint.Proofs.WrittenRules
import Mathlib

/-!
# The contract of a check

What a check tells whoever called it: the exit code, what is written to standard error, and the
field `valid` of a listing in JSON. All of it is told by the numbers of violations of either
severity, but for the notes that stand ahead of the failure in standard error: a commit whose
message is no text is always noted there.

* `totalErrors_eq`, `totalWarnings_eq` — the totals of a check are the numbers of these violations;
* `warningsOf_notes` — the only warnings of a check are about commits whose messages are no texts;
* `check_contract` — how format, quietness and strictness bear on a check.
-/

namespace CommitLint

/-- The violations of a severity in reports. -/
def violationsOf (s : Severity) (reports : List Report) : List Violation :=
  reports.flatMap fun r => r.violations.filter fun v => v.severity = s

/-! ### Totals -/

theorem totalErrors_eq (reports : List Report) :
    totalErrors reports = (violationsOf .error reports).length := by
  induction reports with
  | nil => rfl
  | cons r reports ih =>
    rw [violationsOf, List.flatMap_cons, List.length_append, ← violationsOf, ← ih]
    rfl

/-- What does not fail the check is a warning, when no violation is of a rule that is off. -/
theorem totalWarnings_eq {reports : List Report}
    (on : ∀ r ∈ reports, ∀ v ∈ r.violations, v.severity ≠ .off) :
    totalWarnings reports = (violationsOf .warning reports).length := by
  induction reports with
  | nil => rfl
  | cons r reports ih =>
    have first : r.warnings = r.violations.filter fun v => v.severity = .warning := by
      apply List.filter_congr
      intro v inside
      have := on r List.mem_cons_self v inside
      cases severity : v.severity <;> simp_all [Violation.isError]
    rw [violationsOf, List.flatMap_cons, List.length_append, ← violationsOf, ← first,
      ← ih fun s mem => on s (List.mem_cons_of_mem _ mem)]
    rfl

theorem severity_ne_off_of_lint {config : Config} {m : Message} {v : Violation}
    (h : v ∈ (config.lint m).violations) : v.severity ≠ .off := by
  rw [Config.lint] at h
  split at h
  · cases h
  · exact severity_ne_off_of_mem_validate h

/-- The report of a commit lists the violations of its message. -/
theorem violations_lintCommit (config : Config) (c : Workspace.CommitMessage) :
    (config.lintCommit c).violations = (config.lint (Message.parse c.2)).violations := rfl

theorem exists_ok_of_map_mapError {ε δ α β : Type} {x : Except ε α} {f : ε → δ} {g : α → β} {b : β}
    (h : (x.mapError f).map g = .ok b) : ∃ a, x = .ok a ∧ g a = b := by
  cases x with
  | error e => cases h
  | ok a => exact ⟨a, rfl, Except.ok.inj h⟩

/-- Each report of a check is one of a message under the rules in force. -/
theorem exists_lint_of_reports {w : Workspace} {input : ByteArray} {config : Config}
    {source : Source}
    {reports : List Report} (obtained : w.reports input config source = .ok reports) :
    ∀ r ∈ reports, ∃ m, r.violations = (config.lint m).violations := by
  intro r mem
  cases source with
  | standardInput =>
    obtain ⟨text, -, rfl⟩ := exists_ok_of_map_mapError obtained
    exact ⟨Message.parse text, by rw [List.mem_singleton.1 mem]⟩
  | file path =>
    obtain ⟨text, -, rfl⟩ := exists_ok_of_map_mapError obtained
    exact ⟨Message.ofEditFile text, by rw [List.mem_singleton.1 mem]⟩
  | commit revision =>
    obtain ⟨c, -, rfl⟩ := exists_ok_of_map_mapError obtained
    exact ⟨Message.parse c.2, by rw [List.mem_singleton.1 mem, violations_lintCommit]⟩
  | range range =>
    obtain ⟨cs, -, rfl⟩ := exists_ok_of_map_mapError obtained
    obtain ⟨c, -, rfl⟩ := List.mem_map.1 mem
    exact ⟨Message.parse c.2, violations_lintCommit config c⟩

/-! ### Endings -/

/-- The same check with another format, quietness and strictness. -/
def Invocation.checking (i : Invocation) (a : CheckArguments) (format : Option Format)
    (quiet strict : Bool) :
    Invocation :=
  { i with command := .check { a with strict := strict }, format := format, quiet := quiet }

theorem errorOutput_ofReports (i : Invocation) (styled strict : Bool) (reports : List Report) :
    (Ending.ofReports i styled strict reports).errorOutput =
      if isRejected strict reports then
        "Error: " ++ (Failure.rejected (totalErrors reports) (totalWarnings reports)).message
          ++ "\n"
      else "" := by
  cases rejected : isRejected strict reports <;>
    simp [Ending.errorOutput, Ending.ofReports, rejected]

theorem isRejected_iff (strict : Bool) (reports : List Report) :
    isRejected strict reports = true ↔
      0 < totalErrors reports ∨ (strict = true ∧ 0 < totalWarnings reports) := by
  simp [isRejected]

/-- The reports are all valid exactly when there is no error among them. -/
theorem all_isValid_iff (reports : List Report) :
    reports.all (·.isValid) = true ↔ totalErrors reports = 0 := by
  induction reports with
  | nil => simp [totalErrors]
  | cons r reports ih =>
    have sum : totalErrors (r :: reports) = r.errorCount + totalErrors reports := rfl
    rw [List.all_cons, Bool.and_eq_true, ih, sum, Nat.add_eq_zero_iff]
    simp [Report.isValid]

/-- What is written does not depend on strictness. -/
theorem output_ofReports (i : Invocation) (a : CheckArguments) (format : Option Format)
    (quiet strict styled : Bool) (reports : List Report) :
    (Ending.ofReports (i.checking a format quiet strict) styled strict reports).output =
      if format = some .json then Listing.reportsJson reports
      else Listing.reportsText styled quiet reports := rfl

/-! ### Checks whose messages are obtained -/

section

variable {w : Workspace} {build : Build} {styled : Bool} {input : ByteArray} {i : Invocation}
  {a : CheckArguments} {config : Config} {reports : List Report}

/-- No violation of a check is of a rule that is off, so all that are no errors are warnings. -/
theorem totalWarnings_of_reports (obtained : w.reports input config a.source = .ok reports) :
    totalWarnings reports = (violationsOf .warning reports).length := by
  apply totalWarnings_eq
  intro r mem v inside
  obtain ⟨m, same⟩ := exists_lint_of_reports obtained r mem
  exact severity_ne_off_of_lint (same ▸ inside)

theorem isRejected_of_reports (obtained : w.reports input config a.source = .ok reports)
    (strict : Bool) :
    isRejected strict reports = true ↔ 0 < (violationsOf .error reports).length ∨
      (strict = true ∧ 0 < (violationsOf .warning reports).length) := by
  rw [isRejected_iff, totalErrors_eq, totalWarnings_of_reports obtained]

theorem run_checking (loaded : w.chosenConfig i.config = .ok config)
    (obtained : w.reports input config a.source = .ok reports) (format : Option Format)
    (quiet strict : Bool) :
    (w.run build styled input (i.checking a format quiet strict)).1
      = .ofReports (i.checking a format quiet strict) styled strict reports := by
  have checked : w.run build styled input (i.checking a format quiet strict) = _ :=
    run_check rfl loaded obtained
  exact congrArg Prod.fst checked

theorem exitCode_checking (loaded : w.chosenConfig i.config = .ok config)
    (obtained : w.reports input config a.source = .ok reports) (format : Option Format)
    (quiet strict : Bool) :
    (w.run build styled input (i.checking a format quiet strict)).1.exitCode =
      if 0 < (violationsOf .error reports).length ∨
        (strict = true ∧ 0 < (violationsOf .warning reports).length) then 1 else 0 := by
  rw [run_checking loaded obtained, exitCode_ofReports]
  simp only [isRejected_of_reports obtained]

theorem errorOutput_checking (loaded : w.chosenConfig i.config = .ok config)
    (obtained : w.reports input config a.source = .ok reports) (format : Option Format)
    (quiet strict : Bool) :
    (w.run build styled input (i.checking a format quiet strict)).1.errorOutput =
      if 0 < (violationsOf .error reports).length ∨
        (strict = true ∧ 0 < (violationsOf .warning reports).length) then
        "Error: " ++ (Failure.rejected (violationsOf .error reports).length
          (violationsOf .warning reports).length).message ++ "\n"
      else "" := by
  rw [run_checking loaded obtained, errorOutput_ofReports, totalErrors_eq,
    totalWarnings_of_reports obtained]
  simp only [isRejected_of_reports obtained]

end

/-! ### Files of a text -/

/-- The bytes of a text are those of the text. -/
theorem fromUTF8?_toUTF8 (s : String) : String.fromUTF8? s.toUTF8 = some s := by
  have valid : s.toUTF8.IsValidUTF8 := s.isValidUTF8
  rw [String.fromUTF8?, dif_pos valid]
  rfl

theorem readText_of_readBytes {w : Workspace} {path text : String}
    (read : w.readBytes path = .ok text.toUTF8) :
    w.readText path = .ok text := by
  have bytes : w.files.readBytes w.place path = .ok text.toUTF8 := read
  rw [Workspace.readText, FileTree.readText, bytes]
  simp only [bind, Except.bind, fromUTF8?_toUTF8]

/-! ### What is noted -/

/-- The notes that are written when nothing else is asked for. -/
def warningsOf (notes : List Note) : List Note := notes.filter fun n => n.level = .warning

theorem warningsOf_append (first second : List Note) :
    warningsOf (first ++ second) = warningsOf first ++ warningsOf second :=
  List.filter_append ..

theorem warningsOf_eq_nil_iff (notes : List Note) :
    warningsOf notes = [] ↔ ∀ n ∈ notes, n.level = .debug := by
  rw [warningsOf, List.filter_eq_nil_iff]
  refine forall₂_congr fun n _ => ?_
  cases n.level <;> simp

theorem lines_of_asked_none {logging : Logging} (asked : logging.asked = none) (notes : List Note) :
    logging.lines false notes = String.join ((warningsOf notes).map logging.line) := by
  have shown : logging.shows false = fun n => decide (n.level = .warning) := by
    funext n
    rw [Logging.shows, asked]
    rfl
  rw [Logging.lines, shown, warningsOf]

/-- The rules of a configuration that is chosen are in force. -/
theorem loaded_of_chosenConfig {w : Workspace} {named : Option String} {config : Config}
    (chosen : w.chosenConfig named = .ok config) : config.rules.Loaded := by
  have parsed {path : String} (read : w.loadConfigFrom path = .ok config) :
      config.rules.Loaded := by
    rw [Workspace.loadConfigFrom] at read
    split at read
    · cases read
    · split at read
      · cases read
      · exact .parsed read
  cases named with
  | some path => exact parsed chosen
  | none =>
    rw [Workspace.chosenConfig, Workspace.loadConfig] at chosen
    split at chosen
    · exact parsed chosen
    · exact Except.ok.inj chosen ▸ .standard

theorem warningsOf_loadNotes (w : Workspace) (path : String) :
    warningsOf (w.loadNotes path) = [] := by
  rw [Workspace.loadNotes]
  cases w.loadConfigFrom path <;> rfl

theorem warningsOf_configNotes (w : Workspace) (named : Option String) :
    warningsOf (w.configNotes named) = [] := by
  rw [Workspace.configNotes]
  split
  · exact warningsOf_loadNotes w _
  · rfl

/-- No rule with a value of its shape is passed over. -/
theorem warningsOf_ruleNotes {e : RuleEntry} (sound : e.Sound) (m : Message) :
    warningsOf (ruleNotes m e) = [] := by
  rw [ruleNotes]
  split
  · rfl
  rw [if_neg fun stray => stray.2 sound.shape]
  cases findingOf e.1 e.2 m <;> rfl

/-- The lint of a message under rules in force gives no warning. -/
theorem warningsOf_lintNotes {config : Config} (loaded : config.rules.Loaded) (m : Message) :
    warningsOf (config.lintNotes m) = [] := by
  rw [Config.lintNotes]
  split
  · rfl
  · rw [warningsOf_eq_nil_iff]
    intro n mem
    obtain ⟨e, enabled, noted⟩ := List.mem_flatMap.1 mem
    have sound : e.Sound := sound_of_loaded loaded e (List.mem_filter.1 enabled).1
    exact (warningsOf_eq_nil_iff _).1 (warningsOf_ruleNotes sound m) n noted

/-- The notes about commits whose messages are no texts. -/
def lossyNotes (commits : List (ObjectId × Commit)) : List Note :=
  (commits.filter fun c => !c.2.isText).map fun c => .lossy c.1

theorem warningsOf_lossyNotes (commits : List (ObjectId × Commit)) :
    warningsOf (lossyNotes commits) = lossyNotes commits := by
  apply List.filter_eq_self.2
  intro n mem
  obtain ⟨c, -, rfl⟩ := List.mem_map.1 mem
  rfl

theorem warningsOf_sourceNotes (w : Workspace) (source : Source) :
    warningsOf (w.sourceNotes source) = lossyNotes (w.sourceCommits source) := by
  have kept {others : List Note} (debug : warningsOf others = []) :
      warningsOf (lossyNotes (w.sourceCommits source) ++ others) =
        lossyNotes (w.sourceCommits source) := by
    rw [warningsOf_append, warningsOf_lossyNotes, debug, List.append_nil]
  cases source <;> exact kept rfl

section

variable {w : Workspace} {input : ByteArray} {i : Invocation} {a : CheckArguments} {config : Config}
  {reports : List Report}

theorem notes_checking (loaded : w.chosenConfig i.config = .ok config) (format : Option Format)
    (quiet strict : Bool) :
    w.notes input (i.checking a format quiet strict) =
      (if i.debug then [.debugging] else []) ++
        (w.configNotes i.config ++ w.checkNotes input config { a with strict := strict }) := by
  simp only [Workspace.notes, Invocation.checking, loaded]
  rfl

/-- The only warnings of a check are about commits whose messages are no texts. -/
theorem warningsOf_notes (loaded : w.chosenConfig i.config = .ok config)
    (obtained : w.reports input config a.source = .ok reports) (format : Option Format)
    (quiet strict : Bool) :
    warningsOf (w.notes input (i.checking a format quiet strict)) =
      lossyNotes (w.sourceCommits a.source) := by
  have debugging : warningsOf (if i.debug then [.debugging] else []) = [] := by
    cases i.debug <;> rfl
  have linted : warningsOf ((w.sourceMessages input a.source).flatMap config.lintNotes) = [] := by
    rw [warningsOf_eq_nil_iff]
    intro n mem
    obtain ⟨m, -, noted⟩ := List.mem_flatMap.1 mem
    have quiet := warningsOf_lintNotes (loaded_of_chosenConfig loaded) m
    exact (warningsOf_eq_nil_iff _).1 quiet n noted
  have checked : w.checkNotes input config { a with strict := strict } =
      [.checking { a with strict := strict }] ++ (w.sourceNotes a.source ++
        (w.sourceMessages input a.source).flatMap config.lintNotes) := by
    have same : w.reports input config { a with strict := strict }.source = .ok reports := obtained
    rw [Workspace.checkNotes, same]
    rfl
  rw [notes_checking loaded, checked, warningsOf_append, warningsOf_append, warningsOf_append,
    warningsOf_append, debugging, warningsOf_configNotes, warningsOf_sourceNotes, linted]
  exact List.append_nil _

theorem commitSha_lint (config : Config) (m : Message) : (config.lint m).commitSha = none := by
  rw [Config.lint]
  split <;> rfl

/-- The commits of a source are those that its reports cite. -/
theorem digits_sourceCommits (obtained : w.reports input config a.source = .ok reports) :
    (w.sourceCommits a.source).map (·.1.digits) = reports.filterMap (·.commitSha) := by
  cases source : a.source with
  | standardInput =>
    rw [source] at obtained
    obtain ⟨text, -, rfl⟩ := exists_ok_of_map_mapError obtained
    simp [Workspace.sourceCommits, commitSha_lint]
  | file path =>
    rw [source] at obtained
    obtain ⟨text, -, rfl⟩ := exists_ok_of_map_mapError obtained
    simp [Workspace.sourceCommits, commitSha_lint]
  | commit revision =>
    rw [source, reports_commit] at obtained
    cases opened : w.history with
    | error e =>
      rw [Workspace.commit, opened] at obtained
      cases obtained
    | ok h =>
      rw [commit_of_history opened] at obtained
      cases found : h.findCommit revision with
      | error e =>
        rw [found] at obtained
        cases obtained
      | ok c =>
        rw [found] at obtained
        cases obtained
        simp [Workspace.sourceCommits, opened, found, Except.bind, Except.toOption,
          Config.lintCommit, Report.ofCommit]
  | range range =>
    rw [source, reports_range] at obtained
    cases opened : w.history with
    | error e =>
      rw [Workspace.commits, opened] at obtained
      cases obtained
    | ok h =>
      rw [commits_of_history opened] at obtained
      cases found : h.commitsIn range with
      | error e =>
        rw [found] at obtained
        cases obtained
      | ok cs =>
        rw [found] at obtained
        cases obtained
        simp [Workspace.sourceCommits, opened, found, Except.bind, Except.toOption,
          Config.lintCommit, Report.ofCommit, Function.comp_def]

end

/-! ### The contract -/

/-- **The contract of a check** whose configuration loads and whose messages are obtained. The exit
code is 1 when some violation is an error, or some is a warning and the check is strict, and 0
otherwise. In standard error stand the notes that are asked for, and after them the failure, if
there is one, with both numbers. Unless more notes are asked for there is one for each commit whose
message is no text, and no other. Neither the exit code nor standard error depends on format or
quietness. Strictness changes nothing in what is written to standard output and turns no exit code
but 0 into 1. In JSON the field `valid` is false exactly when some violation is an error, and so
agrees with the exit code of the check that is not strict. -/
theorem check_contract {w : Workspace} {build : Build} {styled : Bool} {input : ByteArray}
    {i : Invocation} {a : CheckArguments} {config : Config} {reports : List Report}
    (loaded : w.chosenConfig i.config = .ok config)
    (obtained : w.reports input config a.source = .ok reports) (logging : Logging) :
    let errors := (violationsOf .error reports).length
    let warnings := (violationsOf .warning reports).length
    let ending := fun format quiet strict =>
      (w.run build styled input (i.checking a format quiet strict)).1
    let logged := fun strict =>
      logging.lines i.debug (w.notes input (i.checking a none false strict))
    let stderr := fun format quiet strict =>
      w.standardError build styled input (i.checking a format quiet strict) logging
    (∀ format quiet strict, (ending format quiet strict).exitCode =
      if 0 < errors ∨ (strict = true ∧ 0 < warnings) then 1 else 0) ∧
    (∀ format quiet strict,
      ((ending format quiet strict).exitCode = 0 → stderr format quiet strict = logged strict) ∧
      ((ending format quiet strict).exitCode = 1 → stderr format quiet strict =
        logged strict ++ ("Error: " ++ ("Commit message check failed: " ++ Nat.repr errors
          ++ " error(s), " ++ Nat.repr warnings ++ " warning(s)") ++ "\n"))) ∧
    (i.debug = false → logging.asked = none → ∀ strict, logged strict =
      String.join (((w.sourceCommits a.source).filter fun c => !c.2.isText).map fun c =>
        logging.line (.lossy c.1))) ∧
    (w.sourceCommits a.source).map (·.1.digits) = reports.filterMap (·.commitSha) ∧
    (∀ format quiet otherFormat otherQuiet strict,
      (ending format quiet strict).exitCode = (ending otherFormat otherQuiet strict).exitCode ∧
      stderr format quiet strict = stderr otherFormat otherQuiet strict) ∧
    (∀ format quiet, (ending format quiet true).output = (ending format quiet false).output ∧
      ((ending format quiet true).exitCode ≠ (ending format quiet false).exitCode →
        (ending format quiet false).exitCode = 0 ∧ (ending format quiet true).exitCode = 1)) ∧
    (∀ quiet strict, ∃ valid,
      (ending (some .json) quiet strict).output = (JsonValue.object
        [("reports", .list (reports.map Report.toJson)), ("valid", .bool valid)]).render ++ "\n" ∧
      (valid = false ↔ 0 < errors) ∧
      (valid = true ↔ (ending (some .json) quiet false).exitCode = 0)) := by
  intro errors warnings ending logged stderr
  have exit : ∀ format quiet strict, (ending format quiet strict).exitCode =
      if 0 < errors ∨ (strict = true ∧ 0 < warnings) then 1 else 0 :=
        exitCode_checking loaded obtained
  have written : ∀ format quiet strict, stderr format quiet strict = logged strict ++
      if 0 < errors ∨ (strict = true ∧ 0 < warnings) then
        "Error: " ++ (Failure.rejected errors warnings).message ++ "\n" else "" := by
    intro format quiet strict
    show logging.lines i.debug _ ++ (w.run build styled input
      (i.checking a format quiet strict)).1.errorOutput = _
    rw [errorOutput_checking loaded obtained format quiet strict, notes_checking loaded,
      ← notes_checking loaded none false strict]
  have run : ∀ format quiet strict, ending format quiet strict =
      .ofReports (i.checking a format quiet strict) styled strict reports :=
        run_checking loaded obtained
  have valid : reports.all (·.isValid) = true ↔ errors = 0 := by
    rw [all_isValid_iff, totalErrors_eq]
  refine ⟨exit, ?_, ?_, digits_sourceCommits obtained, ?_, ?_, ?_⟩
  · intro format quiet strict
    rw [exit, written]
    by_cases rejected : 0 < errors ∨ (strict = true ∧ 0 < warnings)
    · rw [if_pos rejected, if_pos rejected]
      exact ⟨fun h => absurd h (by decide), fun _ => rfl⟩
    · rw [if_neg rejected, if_neg rejected]
      exact ⟨fun _ => String.append_empty, fun h => absurd h (by decide)⟩
  · intro quiet asked strict
    show logging.lines i.debug _ = _
    rw [quiet, lines_of_asked_none asked, warningsOf_notes loaded obtained,
      lossyNotes, List.map_map]
    rfl
  · intro format quiet otherFormat otherQuiet strict
    rw [exit, exit, written, written]
    exact ⟨rfl, rfl⟩
  · intro format quiet
    refine ⟨by rw [run, run, output_ofReports, output_ofReports], ?_⟩
    rw [exit, exit]
    by_cases failing : 0 < errors
    · simp [failing]
    · by_cases warned : 0 < warnings <;> simp [failing, warned]
  · intro quiet strict
    refine ⟨reports.all (·.isValid), ?_, ?_, ?_⟩
    · rw [run, output_ofReports, if_pos rfl]
      rfl
    · rw [← Bool.not_eq_true, valid, Nat.pos_iff_ne_zero]
    · rw [valid, exit]
      simp [Nat.pos_iff_ne_zero]

/-- A workspace with the second starter configuration in a file. -/
def conventionalPlace : Workspace :=
  ⟨⟨[(["lint.toml"], .file Preset.conventional.text.toUTF8)], [], .whole⟩, [],
    ⟨none, none, none⟩, []⟩

/-- A message that is in order but for the first line of its body. -/
def crampedMessage : String := "feat: add a thing\nwhy\nSigned-off-by: A\n"

/-- A log whose lines hold nothing but the words of the notes. -/
def plainLogging : Logging := ⟨none, fun note => note.text ++ "\n"⟩

/-- A check with one warning passes, and fails when it is strict. -/
theorem check_contract_cramped :
    let i := Invocation.checking ⟨.version, true, false, false, none, some "lint.toml"⟩
      ⟨none, none, none, false⟩ none false
    let run := fun strict =>
      (conventionalPlace.run ⟨"0.1.0", none, none⟩ false crampedMessage.toUTF8 (i strict)).1
    (run false).exitCode = 0 ∧ (run true).exitCode = 1 ∧
      conventionalPlace.standardError ⟨"0.1.0", none, none⟩ false crampedMessage.toUTF8 (i true)
        plainLogging = "Error: Commit message check failed: 0 error(s), 1 warning(s)\n" := by
  intro i run
  have loaded : conventionalPlace.chosenConfig (some "lint.toml") =
      .ok ⟨.conventional, true, []⟩ := by
    have there : conventionalPlace.pathExists "lint.toml" = true := by decide +kernel
    have read : conventionalPlace.readText "lint.toml" = .ok Preset.conventional.text :=
      readText_of_readBytes rfl
    simp [Workspace.chosenConfig, Workspace.loadConfigFrom, there, read, parse_conventional]
  let report := Config.lint ⟨.conventional, true, []⟩ (Message.parse crampedMessage)
  have obtained : conventionalPlace.reports crampedMessage.toUTF8 ⟨.conventional, true, []⟩
      .standardInput = .ok [report] := by
    rw [Workspace.reports, Workspace.messageInput, fromUTF8?_toUTF8]
    rfl
  have counts : (violationsOf .error [report]).length = 0 ∧
      (violationsOf .warning [report]).length = 1 := by
    decide +kernel
  obtain ⟨exit, told, noted, -⟩ := @check_contract conventionalPlace ⟨"0.1.0", none, none⟩ false
    crampedMessage.toUTF8 ⟨.version, true, false, false, none, some "lint.toml"⟩
    ⟨none, none, none, false⟩ _ _ loaded obtained plainLogging
  rw [counts.1, counts.2] at exit told
  have failure := (told none false true).2 (exit none false true)
  have nothing := noted rfl rfl true
  dsimp only at failure nothing
  refine ⟨exit none false false, exit none false true, failure.trans ?_⟩
  rw [nothing]
  decide +kernel

/-- A commit whose message ends with a byte that stands for no character. -/
def lossyCommit : ObjectId × Commit :=
  let id : ObjectId := ⟨"00000000000000000000000000000000000000e9", by decide, by decide⟩
  (id, ⟨id, [], "feat: add a thing\n\nSigned-off-by: Ren".toUTF8.push 0xE9⟩)

/-- A workspace whose repository has this commit. -/
def lossyPlace : Workspace where
  files := ⟨[([".git"], .directory), ([".git", "HEAD"], .file lossyCommit.1.digits.toUTF8),
    ([".git", "objects"], .directory), ([".git", "refs"], .directory)], [], .whole⟩
  place := []
  «variables» := ⟨none, none, none⟩
  repositories :=
    [([".git"], ⟨[(lossyCommit.1, .commit lossyCommit.2)], by simp, [], .detached lossyCommit.1⟩)]

/-- A check that passes may write to standard error: a commit whose message is no text is noted. -/
theorem lossy_commit_noted :
    let i := Invocation.checking ⟨.version, true, false, false, none, none⟩
      ⟨none, some "HEAD", none, false⟩ none false false
    (lossyPlace.run ⟨"0.1.0", none, none⟩ false .empty i).1.exitCode = 0 ∧
      lossyPlace.standardError ⟨"0.1.0", none, none⟩ false .empty i plainLogging =
        "Commit 00000000000000000000000000000000000000e9 has a non UTF-8 message, linting lossily\n" := by
  decide +kernel

end CommitLint
