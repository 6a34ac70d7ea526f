import CommitLint.Run
import Mathlib

/-!
# Outcomes

How a run can go, told once for all commands. What is wrong with a source of messages is
`Unobtained`, what stops a run is `Stops`, and `Outcome` lists the ways in which a run goes on when
nothing does.

* `reports_eq_error_iff` — the messages of a source are not obtained for one of these causes only;
* `run_of_stops` — a run that is stopped ends with the cause;
* `outcome_run` — every run goes in one of the ways listed;
* `run_check` — a check whose messages are obtained ends with their reports.
-/

namespace CommitLint

/-! ### Obtaining messages -/

/-- What is wrong with a source of messages, and the failure that tells it. -/
inductive Unobtained (w : Workspace) (input : ByteArray) : Source → Failure → Prop
  /-- Standard input is no text. -/
  | input : String.fromUTF8? input = none →
    Unobtained w input .standardInput (.input (.readFailed "stdin" FileError.notText.message))
  /-- A file cannot be read. -/
  | unread {path : String} {e : FileError} : w.readBytes path = .error e →
    Unobtained w input (.file path) (.input (.readFailed path e.message))
  /-- A file is no text. -/
  | notText {path : String} {bytes : ByteArray} : w.readBytes path = .ok bytes →
    String.fromUTF8? bytes = none → Unobtained w input (.file path) (.input (.notText path))
  /-- There is no repository to look for a commit in. -/
  | outsideCommit {revision : String} {e : HistoryError} : w.history = .error e →
    Unobtained w input (.commit revision) (.history e)
  /-- There is no repository to look for a range in. -/
  | outsideRange {range : String} {e : HistoryError} : w.history = .error e →
    Unobtained w input (.range range) (.history e)
  /-- A revision names no commit. -/
  | commit {revision : String} {h : History} {e : HistoryError} : w.history = .ok h →
    h.findCommit revision = .error e → Unobtained w input (.commit revision) (.history e)
  /-- A range without two dots names no commit. -/
  | single {range : String} {h : History} {e : HistoryError} : w.history = .ok h →
    History.sides? range = none → h.findCommit range = .error e →
    Unobtained w input (.range range) (.history e)
  /-- The first side of a range names no commit. -/
  | since {range since upTo : String} {h : History} {e : HistoryError} : w.history = .ok h →
    History.sides? range = some (since, upTo) → h.findCommit since = .error e →
    Unobtained w input (.range range) (.history e)
  /-- The second side of a range names no commit. -/
  | upTo {range since upTo : String} {h : History} {first : ObjectId × Commit} {e : HistoryError} :
    w.history = .ok h → History.sides? range = some (since, upTo) → h.findCommit since = .ok first →
    h.findCommit upTo = .error e → Unobtained w input (.range range) (.history e)
  /-- A commit on the way has a parent that is not recorded. -/
  | missing {range since upTo : String} {h : History} {first last : ObjectId × Commit}
    {id : ObjectId} :
    w.history = .ok h → History.sides? range = some (since, upTo) → h.findCommit since = .ok first →
    h.findCommit upTo = .ok last →
    h.missingParent? (h.reachable first.1 ++ h.reachable last.1) = some id →
    Unobtained w input (.range range) (.history
      (.commandFailed "revwalk" (RevisionError.missing id).message))

variable {w : Workspace} {input : ByteArray}

theorem commitsBetween_of_missing {h : History} {since upTo id : ObjectId}
    (missing : h.missingParent? (h.reachable since ++ h.reachable upTo) = some id) :
    h.commitsBetween since upTo = .error (.commandFailed "revwalk"
      (RevisionError.missing id).message) := by
  rw [History.commitsBetween, missing]

theorem commits_of_history {h : History} (opened : w.history = .ok h) (range : String) :
    w.commits range = (h.commitsIn range).map (·.map fun found => (found.1, found.2.text)) := by
  rw [Workspace.commits, opened]
  show (h.commitsIn range >>= fun found => pure (found.map _)) = _
  cases h.commitsIn range <;> rfl

theorem reports_range (config : Config) (range : String) :
    w.reports input config (.range range) =
      ((w.commits range).mapError .history).map fun cs => cs.map config.lintCommit := rfl

theorem commit_of_history {h : History} (opened : w.history = .ok h) (revision : String) :
    w.commit revision = (h.findCommit revision).map fun found => (found.1, found.2.text) := by
  rw [Workspace.commit, opened]
  show (h.findCommit revision >>= fun found => pure (found.1, found.2.text)) = _
  cases h.findCommit revision <;> rfl

theorem reports_commit (config : Config) (revision : String) :
    w.reports input config (.commit revision) =
      ((w.commit revision).mapError .history).map fun c => [config.lintCommit c] := rfl

theorem commitsIn_of_found {h : History} {range since upTo : String}
    {first last : ObjectId × Commit}
    (sides : History.sides? range = some (since, upTo)) (hfirst : h.findCommit since = .ok first)
    (hlast : h.findCommit upTo = .ok last) :
    h.commitsIn range = h.commitsBetween first.1 last.1 := by
  rw [History.commitsIn_of_sides? sides, hfirst, hlast]
  rfl

theorem reports_of_unobtained {source : Source} {cause : Failure}
    (wrong : Unobtained w input source cause)
    (config : Config) : w.reports input config source = .error cause := by
  cases wrong with
  | input noText =>
    rw [Workspace.reports, Workspace.messageInput, noText]
    rfl
  | unread unread =>
    rw [Workspace.reports, Workspace.messageFile, unread]
    rfl
  | notText read noText =>
    rw [Workspace.reports, Workspace.messageFile, read]
    simp only [noText]
    rfl
  | outsideCommit outside =>
    rw [Workspace.reports, Workspace.commit, outside]
    rfl
  | outsideRange outside =>
    rw [reports_range, Workspace.commits, outside]
    rfl
  | commit opened unknown =>
    rw [reports_commit, commit_of_history opened, unknown]
    rfl
  | single opened noSides unknown =>
    rw [reports_range, commits_of_history opened, History.commitsIn_of_no_sides noSides, unknown]
    rfl
  | since opened sides unknown =>
    rw [reports_range, commits_of_history opened, History.commitsIn_of_sides? sides, unknown]
    rfl
  | upTo opened sides first unknown =>
    rw [reports_range, commits_of_history opened, History.commitsIn_of_sides? sides, first, unknown]
    rfl
  | missing opened sides first last missing =>
    rw [reports_range, commits_of_history opened, commitsIn_of_found sides first last,
      commitsBetween_of_missing missing]
    rfl

/-- A source has one thing wrong with it at most. -/
theorem Unobtained.of_reports {source : Source} {cause found : Failure} {config : Config}
    (wrong : Unobtained w input source found)
    (failed : w.reports input config source = .error cause) :
    Unobtained w input source cause := by
  rw [reports_of_unobtained wrong config] at failed
  exact Except.error.inj failed ▸ wrong

/-- The messages of a source are not obtained for one of the causes only. -/
theorem unobtained_of_reports {source : Source} {cause : Failure} {config : Config}
    (failed : w.reports input config source = .error cause) : Unobtained w input source cause := by
  cases source with
  | standardInput =>
    cases read : String.fromUTF8? input with
    | none => exact .of_reports (.input read) failed
    | some text =>
      rw [Workspace.reports, Workspace.messageInput, read] at failed
      cases failed
  | file path =>
    cases read : w.readBytes path with
    | error e => exact .of_reports (.unread read) failed
    | ok bytes =>
      cases decoded : String.fromUTF8? bytes with
      | none => exact .of_reports (.notText read decoded) failed
      | some text =>
        rw [Workspace.reports, Workspace.messageFile, read] at failed
        simp only [decoded] at failed
        cases failed
  | commit revision =>
    cases opened : w.history with
    | error e => exact .of_reports (.outsideCommit opened) failed
    | ok h =>
      cases found : h.findCommit revision with
      | error e => exact .of_reports (.commit opened found) failed
      | ok c =>
        rw [reports_commit, commit_of_history opened, found] at failed
        cases failed
  | range range =>
    cases opened : w.history with
    | error e => exact .of_reports (.outsideRange opened) failed
    | ok h =>
      rcases sides : History.sides? range with _ | ⟨since, upTo⟩
      · cases found : h.findCommit range with
        | error e => exact .of_reports (.single opened sides found) failed
        | ok c =>
          rw [reports_range, commits_of_history opened, History.commitsIn_of_no_sides sides, found]
            at failed
          cases failed
      · cases hfirst : h.findCommit since with
        | error e => exact .of_reports (.since opened sides hfirst) failed
        | ok first =>
          cases hlast : h.findCommit upTo with
          | error e => exact .of_reports (.upTo opened sides hfirst hlast) failed
          | ok last =>
            cases missing : h.missingParent? (h.reachable first.1 ++ h.reachable last.1) with
            | some id => exact .of_reports (.missing opened sides hfirst hlast missing) failed
            | none =>
              rw [reports_range, commits_of_history opened, commitsIn_of_found sides hfirst hlast,
                History.commitsBetween, missing] at failed
              cases failed

/-! ### Stopped runs -/

/-- Whether a command needs the configuration. -/
def Command.needsConfig : Command → Prop
  | .check _ | .rules => True
  | .init _ _ | .version => False

/-- What stops a run, the failure that tells it, and the workspace that it leaves. Only a file whose
writing breaks off is not as it was. -/
inductive Stops (w : Workspace) (input : ByteArray) (i : Invocation) : Failure → Workspace → Prop
  /-- The configuration is not found, cannot be read, or is none. -/
  | config {e : ConfigError} : i.command.needsConfig → w.chosenConfig i.config = .error e →
    Stops w input i (.config e) w
  /-- The messages of a check are not obtained. -/
  | messages {a : CheckArguments} {config : Config} {cause : Failure} : i.command = .check a →
    w.chosenConfig i.config = .ok config → Unobtained w input a.source cause →
    Stops w input i cause w
  /-- A configuration file is there, and is not to be overwritten. -/
  | refused {preset : Preset} : i.command = .init false preset →
    w.pathExists startedName = true →
    Stops w input i
      (.during "init" (startedName ++ " already exists. Use --force to overwrite.")) w
  /-- The configuration file cannot be written, or not to its end. -/
  | unwritten {force : Bool} {preset : Preset} {e : FileError} {after : Workspace} :
    i.command = .init force preset → (w.pathExists startedName && !force) = false →
    w.writeText startedName preset.text = (.error e, after) →
    Stops w input i (.during ("Failed to write " ++ startedName) e.message) after

variable {i : Invocation} {build : Build} {styled : Bool}

/-- A run that is stopped ends with the cause. -/
theorem run_of_stops {cause : Failure} {after : Workspace} (stops : Stops w input i cause after) :
    w.run build styled input i = (.failed cause, after) := by
  cases stops with
  | @config e needs wrong =>
    cases command : i.command with
    | check a =>
      rw [Workspace.run, command]
      simp only [Workspace.check, wrong]
      rfl
    | rules =>
      rw [Workspace.run, command]
      simp only [Workspace.listRules, wrong]
      rfl
    | init force preset =>
      rw [command] at needs
      exact needs.elim
    | version =>
      rw [command] at needs
      exact needs.elim
  | @messages a config cause command loaded wrong =>
    have failed := reports_of_unobtained wrong config
    rw [Workspace.run, command]
    simp only [Workspace.check, loaded]
    show (Ending.ofResult ((w.reports input config a.source) >>= _), w) = _
    rw [failed]
    rfl
  | refused command there =>
    rw [Workspace.run, command]
    simp [Workspace.start, there]
  | unwritten command allowed failed =>
    rw [Workspace.run, command]
    simp [Workspace.start, allowed, failed]

theorem exitCode_of_unobtained {source : Source} {cause : Failure}
    (wrong : Unobtained w input source cause) :
    cause.exitCode = 2 := by
  cases wrong <;> rfl

/-- The cause that stops a run is never a check that was carried out. -/
theorem exitCode_of_stops {cause : Failure} {after : Workspace}
    (stops : Stops w input i cause after) : cause.exitCode = 2 := by
  cases stops with
  | config => rfl
  | messages _ _ wrong => exact exitCode_of_unobtained wrong
  | refused => rfl
  | unwritten => rfl

/-! ### All runs -/

/-- The ways in which a run goes: how it ends, and the workspace after it. -/
inductive Outcome (w : Workspace) (build : Build) (styled : Bool) (input : ByteArray)
    (i : Invocation) :
    Ending × Workspace → Prop
  /-- Something stops the run. -/
  | stopped {cause : Failure} {after : Workspace} : Stops w input i cause after →
    Outcome w build styled input i (.failed cause, after)
  /-- Messages are checked. -/
  | checked {a : CheckArguments} {config : Config} {reports : List Report} : i.command = .check a →
    w.chosenConfig i.config = .ok config → w.reports input config a.source = .ok reports →
    Outcome w build styled input i (.ofReports i styled a.strict reports, w)
  /-- Something is told, and nothing done. -/
  | told {output : String} : i.command = .rules ∨ i.command = .version →
    Outcome w build styled input i (.success output, w)
  /-- A configuration file is started. -/
  | started {force : Bool} {preset : Preset} {after : Workspace} : i.command = .init force preset →
    (w.pathExists startedName && !force) = false →
    w.writeText startedName preset.text = (.ok (), after) →
    Outcome w build styled input i (.success ("✓ Created " ++ startedName ++ "\n"), after)

theorem run_check {a : CheckArguments} {config : Config} {reports : List Report}
    (command : i.command = .check a) (loaded : w.chosenConfig i.config = .ok config)
    (obtained : w.reports input config a.source = .ok reports) :
    w.run build styled input i = (.ofReports i styled a.strict reports, w) := by
  rw [Workspace.run, command]
  simp only [Workspace.check, loaded]
  show (Ending.ofResult ((w.reports input config a.source) >>= _), w) = _
  rw [obtained]
  rfl

theorem exitCode_ofReports (i : Invocation) (styled strict : Bool) (reports : List Report) :
    (Ending.ofReports i styled strict reports).exitCode =
      if isRejected strict reports then 1 else 0 := by
  cases rejected : isRejected strict reports <;>
    simp [Ending.exitCode, Ending.ofReports, rejected, Failure.exitCode]

/-- Every run goes in one of these ways. -/
theorem outcome_run : Outcome w build styled input i (w.run build styled input i) := by
  cases command : i.command with
  | check a =>
    cases loaded : w.chosenConfig i.config with
    | error e =>
      have stops : Stops w input i (.config e) w := .config (by rw [command]; trivial) loaded
      rw [run_of_stops stops]
      exact .stopped stops
    | ok config =>
      cases obtained : w.reports input config a.source with
      | error cause =>
        have stops : Stops w input i cause w :=
          .messages command loaded (unobtained_of_reports obtained)
        rw [run_of_stops stops]
        exact .stopped stops
      | ok reports =>
        rw [run_check command loaded obtained]
        exact .checked command loaded obtained
  | rules =>
    cases loaded : w.chosenConfig i.config with
    | error e =>
      have stops : Stops w input i (.config e) w := .config (by rw [command]; trivial) loaded
      rw [run_of_stops stops]
      exact .stopped stops
    | ok config =>
      have same : ∃ output, w.run build styled input i = (.success output, w) := by
        rw [Workspace.run, command]
        simp only [Workspace.listRules, loaded]
        exact ⟨_, rfl⟩
      obtain ⟨output, same⟩ := same
      rw [same]
      exact .told (.inl command)
  | init force preset =>
    cases there : w.pathExists startedName && !force with
    | true =>
      obtain ⟨found, kept⟩ : w.pathExists startedName = true ∧ force = false := by simpa using there
      have stops : Stops w input i _ _ := .refused (kept ▸ command) found
      rw [run_of_stops stops]
      exact .stopped stops
    | false =>
      rcases written : w.writeText startedName preset.text with ⟨e | ⟨⟩, after⟩
      · have stops : Stops w input i _ _ := .unwritten command there written
        rw [run_of_stops stops]
        exact .stopped stops
      · rw [Workspace.run, command]
        simp only [Workspace.start, there, written]
        exact .started command there written
  | version =>
    rw [Workspace.run, command]
    exact .told (.inr command)

end CommitLint
