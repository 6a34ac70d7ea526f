import CommitLint.Proofs.FollowedPaths
import CommitLint.Proofs.Outcome
import Mathlib

/-!
# Runs that fail change nothing

A run either does what is asked or leaves everything as it was, unless the system breaks off a
write: nothing is written before all else that can fail has succeeded, and only the start of a
configuration file writes a file at all. That file is the one that its name in the current directory
leads to, which stands there unless the name is a link.

* `locate_startedName` — where the name of the configuration file leads;
* `writeText_cases` — what comes of writing a file;
* `run_atomic` — what a run leaves as it was, told by its command and its exit code.
-/

namespace CommitLint

variable {w after : Workspace}

/-! ### The configuration file that is started -/

/-- The name of the configuration file leads to a location in the current directory, or to where a
link there leads. -/
theorem locate_startedName (w : Workspace) :
    w.files.locate w.place startedName =
      w.files.followLinks FileTree.maxLinks w.place [startedName] := by
  have parts : FileTree.namesIn startedName = [startedName] := by decide +kernel
  have relative : ¬Path.isAbsolute startedName = true := by decide +kernel
  have short : ¬startedName.utf8ByteSize ≥ FileTree.maxPathSize := by decide +kernel
  have noNul : ¬startedName.toList.contains '\x00' = true := by decide +kernel
  have nonempty : startedName ≠ "" := by decide
  rw [FileTree.locate, if_neg noNul, if_neg nonempty, if_neg short, parts, FileTree.startOf,
    if_neg relative]

theorem turn_startedName (tree : FileTree) (place : Location) :
    tree.turn place startedName =
      match tree.barrier? place with
      | some cause => .error cause
      | none => tree.enter place startedName := by
  have nonempty : startedName ≠ "" := by decide
  have plain : startedName ≠ "." := by decide
  have inside : startedName ≠ ".." := by decide
  rw [FileTree.turn, if_neg nonempty]
  cases tree.barrier? place with
  | some cause => rfl
  | none => exact (if_neg plain).trans (if_neg inside)

/-- In a directory that stands the name leads to the location that has it, unless a link or a
further name stands there. -/
theorem enter_startedName {tree : FileTree} {place : Location}
    (plain : ¬ tree.IsName (place ++ [startedName])) (here : tree.isDirectory place = true) :
    tree.enter place startedName = .ok (.to (place ++ [startedName])) ∨
      ∃ cause, tree.enter place startedName = .ok (.last (place ++ [startedName]) cause) := by
  have fits : ¬startedName.utf8ByteSize > FileTree.maxNameSize := by decide +kernel
  rw [FileTree.IsName, not_or] at plain
  rw [FileTree.enter, if_neg fits, here]
  cases stands : tree.get? (place ++ [startedName]) with
  | none => exact .inr ⟨_, rfl⟩
  | some node =>
    cases node with
    | directory => exact .inl rfl
    | file _ => exact .inr ⟨_, rfl⟩
    | device _ => exact .inr ⟨_, rfl⟩
    | link path => exact absurd ⟨path, stands⟩ plain.1
    | twin other => exact absurd ⟨other, stands⟩ plain.2

/-- Unless it is a name for another, the configuration file stands in the current directory, if that
still stands and can be looked into. -/
theorem locate_startedName_of_plain (plain : ¬ w.files.IsName (w.place ++ [startedName])) :
    w.files.locate w.place startedName =
      match w.files.barrier? w.place with
      | some cause => .error cause
      | none =>
        if w.files.isDirectory w.place = true then .ok (w.place ++ [startedName])
        else .error .notFound := by
  have fits : ¬startedName.utf8ByteSize > FileTree.maxNameSize := by decide +kernel
  rw [locate_startedName, FileTree.maxLinks, FileTree.followLinks, FileTree.follow,
    turn_startedName]
  cases w.files.barrier? w.place with
  | some cause => rfl
  | none =>
    by_cases here : w.files.isDirectory w.place = true
    · rcases enter_startedName plain here with entered | ⟨cause, entered⟩ <;>
        simp [entered, here, FileTree.follow]
    · simp [FileTree.enter, fits, here]

/-! ### Written files -/

/-- What comes of writing a file: nothing is changed, or it is written up to where it is cut, or it
is written to its end. -/
theorem writeText_cases (tree : FileTree) (base : Location) (path text : String) :
    (∃ cause, tree.writeText base path text = (.error cause, tree)) ∨
    ∃ spot, tree.locate base path = .ok spot ∧ tree.get? spot ≠ some .directory ∧
      ((∃ size cause, tree.writing = .cut size cause ∧ tree.writeText base path text =
        (.error cause, tree.fill spot (text.toUTF8.extract 0 size))) ∨
      (tree.writing = .whole ∧
        tree.writeText base path text = (.ok (), tree.fill spot text.toUTF8))) := by
  rw [FileTree.writeText]
  cases leads : tree.locate base path with
  | error cause => exact .inl ⟨cause, rfl⟩
  | ok spot =>
    by_cases directory : tree.isDirectory spot = true
    · exact .inl ⟨.isADirectory, by simp [directory]⟩
    · have other : tree.get? spot ≠ some .directory := by
        simpa [FileTree.isDirectory] using directory
      cases takes : tree.writing with
      | whole => exact .inr ⟨spot, rfl, other, .inr ⟨rfl, by simp [directory]⟩⟩
      | refused cause => exact .inl ⟨cause, by simp [directory]⟩
      | cut size cause =>
        exact .inr ⟨spot, rfl, other, .inl ⟨size, cause, rfl, by simp [directory]⟩⟩

/-- What is changed in a workspace when what stands at one location is given a content. What is
recorded in a repository is the same if that location is none of its own. -/
structure Workspace.Filled (w after : Workspace) (spot : Location) (content : ByteArray) :
    Prop where
  environment : after.place = w.place ∧ after.variables = w.variables
  repositories : (∀ e ∈ w.repositories, ¬ e.1 <+: spot) → after.repositories = w.repositories
  elsewhere : ∀ place, place ≠ spot → after.files.get? place = w.files.get? place
  faults : ∀ place, after.files.fault? place = w.files.fault? place
  here : after.files.get? spot = some (.file content) ∨
    ∃ kept, w.files.get? spot = some (.device kept) ∧
      after.files.get? spot = some (.device kept)

theorem filled_fill (w : Workspace) {spot : Location} (content : ByteArray)
    (other : w.files.get? spot ≠ some .directory) :
    w.Filled { w with files := w.files.fill spot content } spot content := by
  have below : spot ≠ [] := by
    rintro rfl
    exact other rfl
  refine ⟨⟨rfl, rfl⟩, fun _ => rfl, fun place apart => FileTree.get?_fill_of_ne _ _ apart,
    fun place => FileTree.fault?_fill _ _ _ _, ?_⟩
  have filled := FileTree.get?_fill_self w.files content below
  cases stands : w.files.get? spot with
  | none => exact .inl (by rw [filled, stands])
  | some node =>
    cases node with
    | device kept => exact .inr ⟨kept, rfl, by rw [filled, stands]⟩
    | _ => exact .inl (by rw [filled, stands])

/-- What comes of starting a configuration file: nothing is changed, or it is filled. -/
theorem writeText_startedName (w : Workspace) (text : String) :
    (∃ cause, w.writeText startedName text = (.error cause, w)) ∨
    ∃ spot, w.files.locate w.place startedName = .ok spot ∧
      w.files.get? spot ≠ some .directory ∧
      ((∃ size cause after, w.files.writing = .cut size cause ∧
        w.writeText startedName text = (.error cause, after) ∧
        w.Filled after spot (text.toUTF8.extract 0 size)) ∨
      (∃ after, w.files.writing = .whole ∧ w.writeText startedName text = (.ok (), after) ∧
        w.Filled after spot text.toUTF8)) := by
  rcases writeText_cases w.files w.place startedName text with
    ⟨cause, failed⟩ | ⟨spot, leads, other, ⟨size, cause, cut, failed⟩ | ⟨whole, written⟩⟩
  · exact .inl ⟨cause, by rw [Workspace.writeText, failed]⟩
  · refine .inr ⟨spot, leads, other, .inl ⟨size, cause, _, cut, ?_, filled_fill w _ other⟩⟩
    rw [Workspace.writeText, failed]
  · refine .inr ⟨spot, leads, other, .inr ⟨_, whole, ?_, filled_fill w _ other⟩⟩
    rw [Workspace.writeText, written]

/-- What may be written stands nowhere yet, unless it is to be overwritten. -/
theorem get?_eq_none_of_allowed {force : Bool} {spot : Location}
    (allowed : (w.pathExists startedName && !force) = false)
    (leads : w.files.locate w.place startedName = .ok spot) (kept : force = false) :
    w.files.get? spot = none := by
  rw [kept] at allowed
  by_contra stands
  have found : w.pathExists startedName = true := FileTree.pathExists_iff.2 ⟨spot, leads, stands⟩
  rw [found] at allowed
  cases allowed

/-! ### All runs -/

section

variable {build : Build} {styled : Bool} {input : ByteArray} {i : Invocation}
  {result : Ending × Workspace}

theorem stops_of_exitCode (outcome : Outcome w build styled input i result)
    (exit : result.1.exitCode = 2) : ∃ cause, Stops w input i cause result.2 := by
  cases outcome with
  | stopped stops => exact ⟨_, stops⟩
  | @checked a config reports _ _ _ =>
    rw [exitCode_ofReports] at exit
    split at exit <;> cases exit
  | told _ => cases exit
  | started _ _ _ => cases exit

/-- What a run that is stopped changes is a file whose writing breaks off. -/
theorem eq_or_cut_of_stops {cause : Failure} (stops : Stops w input i cause after) :
    after = w ∨ ∃ force preset spot size why, i.command = .init force preset ∧
      w.files.writing = .cut size why ∧ w.files.locate w.place startedName = .ok spot ∧
      (force = false → w.files.get? spot = none) ∧
      w.Filled after spot (preset.text.toUTF8.extract 0 size) := by
  cases stops with
  | config _ _ => exact .inl rfl
  | messages _ _ _ => exact .inl rfl
  | refused _ _ => exact .inl rfl
  | @unwritten force preset e after command allowed failed =>
    rcases writeText_startedName w preset.text with
      ⟨_, kept⟩ | ⟨spot, leads, -, ⟨size, why, _, cut, broken, filled⟩ | ⟨_, -, written, -⟩⟩
    · exact .inl (Prod.mk.inj (failed.symm.trans kept)).2
    · obtain ⟨-, rfl⟩ := Prod.mk.inj (failed.symm.trans broken)
      exact .inr ⟨force, preset, spot, size, why, command, cut, leads,
        get?_eq_none_of_allowed allowed leads, filled⟩
    · cases failed.symm.trans written

/-- What a run that is not stopped changes is the configuration file that it starts. -/
theorem started_of_exitCode (outcome : Outcome w build styled input i result)
    (exit : result.1.exitCode ≠ 2) :
    ((∀ force preset, i.command ≠ .init force preset) ∧ result.2 = w) ∨
    ∃ force preset spot, i.command = .init force preset ∧
      w.files.locate w.place startedName = .ok spot ∧
      (force = false → w.files.get? spot = none) ∧
      w.Filled result.2 spot preset.text.toUTF8 := by
  cases outcome with
  | stopped stops => exact absurd (exitCode_of_stops stops) exit
  | checked command _ _ => exact .inl ⟨fun _ _ same => by simp [command] at same, rfl⟩
  | told command =>
    refine .inl ⟨fun _ _ same => ?_, rfl⟩
    rcases command with command | command <;> simp [command] at same
  | @started force preset after command allowed written =>
    rcases writeText_startedName w preset.text with
      ⟨_, failed⟩ | ⟨spot, leads, -, ⟨_, _, _, -, broken, -⟩ | ⟨_, -, whole, filled⟩⟩
    · cases written.symm.trans failed
    · cases written.symm.trans broken
    · obtain ⟨-, rfl⟩ := Prod.mk.inj (written.symm.trans whole)
      exact .inr ⟨force, preset, spot, command, leads,
        get?_eq_none_of_allowed allowed leads, filled⟩

end

/-- **Runs that fail change nothing, and only the start of a configuration file writes.** A run ends
with the exit code 2 exactly when one of the causes stops it; it has then written nothing and tells
this cause. It leaves everything as it was, unless it starts a configuration file and the system
breaks off the writing of it, in which case this file alone is changed and holds the start of what
was to be written. Checks, listings and the version never change anything. A run that starts a
configuration file changes nothing but the file that its name leads to, which stands in the current
directory unless the name is one for what stands elsewhere. -/
theorem run_atomic (w : Workspace) (build : Build) (styled : Bool) (input : ByteArray)
    (i : Invocation) :
    let ending := (w.run build styled input i).1
    let after := (w.run build styled input i).2
    (ending.exitCode = 2 ↔ ∃ cause left, Stops w input i cause left) ∧
    (∀ cause left, Stops w input i cause left → ending.output = "" ∧
      ending.errorOutput = "Error: " ++ cause.message ++ "\n" ∧ after = left) ∧
    (ending.exitCode = 2 → ending.output = "" ∧
      (after = w ∨ ∃ force preset spot size cause, i.command = .init force preset ∧
        w.files.writing = .cut size cause ∧ w.files.locate w.place "cmlint.toml" = .ok spot ∧
        (force = false → w.files.get? spot = none) ∧
        w.Filled after spot (preset.text.toUTF8.extract 0 size))) ∧
    ((∀ force preset, i.command ≠ .init force preset) → after = w) ∧
    (∀ force preset, i.command = .init force preset → ending.exitCode ≠ 2 →
      ∃ spot, w.files.locate w.place "cmlint.toml" = .ok spot ∧
        (force = false → w.files.get? spot = none) ∧
        w.Filled after spot preset.text.toUTF8) ∧
    (∀ spot, w.files.locate w.place "cmlint.toml" = .ok spot →
      ¬ w.files.IsName (w.place ++ ["cmlint.toml"]) → spot = w.place ++ ["cmlint.toml"]) := by
  intro ending after
  have outcome : Outcome w build styled input i (ending, after) := outcome_run
  have stopped : ∀ cause left, Stops w input i cause left →
      ending = .failed cause ∧ after = left := by
    intro cause left stops
    have same := @run_of_stops w input i build styled cause left stops
    exact ⟨congrArg Prod.fst same, congrArg Prod.snd same⟩
  refine ⟨⟨fun exit => ?_, ?_⟩, ?_, ?_, ?_, ?_, ?_⟩
  · obtain ⟨cause, stops⟩ := stops_of_exitCode outcome exit
    exact ⟨cause, after, stops⟩
  · rintro ⟨cause, left, stops⟩
    rw [(stopped cause left stops).1]
    exact exitCode_of_stops stops
  · intro cause left stops
    obtain ⟨same, kept⟩ := stopped cause left stops
    rw [same]
    exact ⟨rfl, rfl, kept⟩
  · intro exit
    obtain ⟨cause, stops⟩ := stops_of_exitCode outcome exit
    rw [(stopped cause after stops).1]
    exact ⟨rfl, eq_or_cut_of_stops stops⟩
  · intro other
    by_cases exit : ending.exitCode = 2
    · obtain ⟨cause, stops⟩ := stops_of_exitCode outcome exit
      rcases eq_or_cut_of_stops stops with kept | ⟨force, preset, _, _, _, command, -⟩
      · exact kept
      · exact absurd command (other force preset)
    · rcases started_of_exitCode outcome exit with ⟨-, kept⟩ | ⟨force, preset, _, command, -⟩
      · exact kept
      · exact absurd command (other force preset)
  · intro force preset command exit
    rcases started_of_exitCode outcome exit with ⟨other, -⟩ | ⟨force', preset', spot, same, started⟩
    · exact absurd command (other force preset)
    · obtain ⟨rfl, rfl⟩ := Command.init.inj (command.symm.trans same)
      exact ⟨spot, started⟩
  · intro spot leads plain
    rw [show w.files.locate w.place "cmlint.toml" = _ from locate_startedName_of_plain plain]
      at leads
    split at leads
    · cases leads
    · split at leads
      · exact (Except.ok.inj leads).symm
      · cases leads

/-- A configuration file on a system that has no room for what is written. -/
def fullPlace : Workspace where
  files := ⟨[(["work"], .directory), (["work", "cmlint.toml"], .file "[rules]\n".toUTF8)], [],
    .cut 0 .noSpace⟩
  place := ["work"]
  «variables» := ⟨none, none, none⟩
  repositories := []

/-- A configuration file that is a link to one which does not stand yet. -/
def linkedPlace : Workspace where
  files := ⟨[(["work"], .directory), (["work", "cmlint.toml"], .link "shared.toml")], [], .whole⟩
  place := ["work"]
  «variables» := ⟨none, none, none⟩
  repositories := []

/-- A run that fails may have emptied the configuration file, when the system has no room for it.
One that succeeds may have written another file, when the configuration file is a link. -/
theorem start_not_atomic :
    let run := fun (w : Workspace) =>
      w.run ⟨"0.1.0", none, none⟩ false .empty
        ⟨.init true .standard, true, false, false, none, none⟩
    ((run fullPlace).1.exitCode = 2 ∧
      fullPlace.files.get? ["work", "cmlint.toml"] = some (.file "[rules]\n".toUTF8) ∧
      (run fullPlace).2.files.get? ["work", "cmlint.toml"] = some (.file .empty)) ∧
    ((run linkedPlace).1.exitCode = 0 ∧ linkedPlace.files.get? ["work", "shared.toml"] = none ∧
      (run linkedPlace).2.files.get? ["work", "shared.toml"] =
        some (.file Preset.standard.text.toUTF8)) := by
  intro run
  have starts (w : Workspace) : run w = w.start true .standard := rfl
  have forced (w : Workspace) : (w.pathExists startedName && !true) = false := by simp
  have full : fullPlace.files.locate fullPlace.place startedName = .ok ["work", "cmlint.toml"] := by
    decide +kernel
  have linked : linkedPlace.files.locate linkedPlace.place startedName =
      .ok ["work", "shared.toml"] := by decide +kernel
  let emptied := fullPlace.files.put ["work", "cmlint.toml"] (.file .empty)
  let shared := linkedPlace.files.put ["work", "shared.toml"] (.file Preset.standard.text.toUTF8)
  have cut : fullPlace.writeText startedName Preset.standard.text =
      (.error .noSpace, { fullPlace with files := emptied }) := by
    have nothing : Preset.standard.text.toUTF8.extract 0 0 = .empty := by simp
    rw [Workspace.writeText, FileTree.writeText, full]
    simp only [emptied, ← nothing]
    rfl
  have written : linkedPlace.writeText startedName Preset.standard.text =
      (.ok (), { linkedPlace with files := shared }) := by
    rw [Workspace.writeText, FileTree.writeText, linked]
    rfl
  rw [starts, starts, Workspace.start, Workspace.start, forced, forced, cut, written]
  refine ⟨⟨rfl, rfl, FileTree.get?_put_self _ _ (by decide)⟩, rfl, rfl, ?_⟩
  exact FileTree.get?_put_self _ _ (by decide)

end CommitLint
