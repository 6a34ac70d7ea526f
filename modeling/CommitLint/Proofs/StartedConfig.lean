import CommitLint.Proofs.Atomicity
import CommitLint.Proofs.CheckContract
import CommitLint.Proofs.ConfigSearch
import CommitLint.Proofs.WrittenRules
import Mathlib

/-!
# The configuration that is started is the one in force

The start of a configuration file writes what its name in the current directory leads to, and with
that directory the search begins. What was written is therefore found first and is read as the rules
of the starter configuration, whatever stands elsewhere, unless it cannot be found by its path from
the root.

* `exitCode_start_iff` — when the start of a configuration file succeeds;
* `locate_startedPath_iff` — where the search looks first after it;
* `started_in_force` — what is found and loaded then.
-/

namespace CommitLint

/-! ### The start -/

/-- Whether a configuration file can be started at a location: its name leads there, where no
directory stands and nothing that is to be kept, and the system writes all of it. -/
structure Workspace.CanStart (w : Workspace) (force : Bool) (spot : Location) : Prop where
  leads : w.files.locate w.place startedName = .ok spot
  other : w.files.get? spot ≠ some .directory
  free : force = false → w.files.get? spot = none
  whole : w.files.writing = .whole

/-- The workspace with a starter configuration at a location. -/
def Workspace.started (w : Workspace) (spot : Location) (preset : Preset) : Workspace :=
  { w with files := w.files.fill spot preset.text.toUTF8 }

/-- The location of the name of the configuration file. -/
def Workspace.entry (w : Workspace) : Location := w.place ++ [startedName]

section

variable {w : Workspace} {force : Bool} {preset : Preset} {spot : Location}

theorem start_of_canStart (can : w.CanStart force spot) :
    w.start force preset =
      (.success ("✓ Created " ++ startedName ++ "\n"), w.started spot preset) := by
  have allowed : ¬(w.pathExists startedName && !force) = true := by
    intro refused
    rw [Bool.and_eq_true, Workspace.pathExists, FileTree.pathExists_iff, Bool.not_eq_true']
      at refused
    obtain ⟨⟨place, leads, stands⟩, kept⟩ := refused
    obtain rfl := Except.ok.inj (can.leads.symm.trans leads)
    exact stands (can.free kept)
  have noDirectory : ¬w.files.isDirectory spot = true :=
    fun directory => can.other (FileTree.isDirectory_iff.1 directory)
  have written : w.writeText startedName preset.text = (.ok (), w.started spot preset) := by
    rw [Workspace.writeText, FileTree.writeText, can.leads]
    simp only [if_neg noDirectory, can.whole]
    rfl
  rw [Workspace.start, if_neg allowed, written]

theorem start_of_pathExists (there : w.pathExists startedName = true) :
    (w.start false preset).1.exitCode = 2 ∧ (w.start false preset).2 = w := by
  rw [Workspace.start, there]
  exact ⟨rfl, rfl⟩

theorem canStart_of_exitCode (success : (w.start force preset).1.exitCode = 0) :
    ∃ spot, w.CanStart force spot := by
  rw [Workspace.start] at success
  split at success
  · cases success
  · next allowed =>
    rw [Bool.not_eq_true] at allowed
    rcases writeText_startedName w preset.text with
      ⟨_, failed⟩ | ⟨spot, leads, other, ⟨_, _, _, -, broken, -⟩ | ⟨_, whole, -, -⟩⟩
    · rw [failed] at success
      cases success
    · rw [broken] at success
      cases success
    · exact ⟨spot, leads, other, get?_eq_none_of_allowed allowed leads, whole⟩

theorem exitCode_start_iff :
    (w.start force preset).1.exitCode = 0 ↔ ∃ spot, w.CanStart force spot := by
  refine ⟨canStart_of_exitCode, ?_⟩
  rintro ⟨spot, can⟩
  rw [start_of_canStart can]
  rfl

/-- What has the name of the configuration file stays as it is, if it is to be kept. -/
theorem get?_entry_start (kept : w.files.get? w.entry ≠ none) :
    (w.start false preset).2.files.get? w.entry = w.files.get? w.entry := by
  rw [Workspace.start]
  split
  · rfl
  · next allowed =>
    rw [Bool.not_eq_true] at allowed
    have apart {spot : Location} (leads : w.files.locate w.place startedName = .ok spot) :
        w.entry ≠ spot := by
      rintro rfl
      exact kept (get?_eq_none_of_allowed allowed leads rfl)
    rcases writeText_startedName w preset.text with
      ⟨_, failed⟩ | ⟨spot, leads, -, ⟨_, _, _, -, broken, filled⟩ | ⟨_, -, written, filled⟩⟩
    · rw [failed]
    · rw [broken]
      exact filled.elsewhere _ (apart leads)
    · rw [written]
      exact filled.elsewhere _ (apart leads)

/-! ### Where the name leads -/

theorem isDirectory_of_locate (leads : w.files.locate w.place startedName = .ok spot) :
    w.files.isDirectory w.place = true := by
  by_contra gone
  have nothing : w.files.enter w.place startedName = .error .notFound := by
    have fits : ¬startedName.utf8ByteSize > FileTree.maxNameSize := by decide +kernel
    rw [FileTree.enter, if_neg fits, if_pos (by simpa using gone)]
  rw [locate_startedName, FileTree.maxLinks, FileTree.followLinks, FileTree.follow,
    turn_startedName, FileTree.barrier?, if_neg gone, nothing] at leads
  cases leads

theorem eq_of_locate_of_twin {other : Location} (stands : w.files.get? w.entry = some (.twin other))
    (leads : w.files.locate w.place startedName = .ok spot) : spot = other := by
  have entered : w.files.enter w.place startedName = .ok (.last other .notADirectory) := by
    have fits : ¬startedName.utf8ByteSize > FileTree.maxNameSize := by decide +kernel
    rw [FileTree.enter, if_neg fits, isDirectory_of_locate leads]
    simp only [Workspace.entry] at stands
    simp [stands]
  rw [locate_startedName, FileTree.maxLinks, FileTree.followLinks, FileTree.follow,
    turn_startedName, entered] at leads
  cases barrier : w.files.barrier? w.place with
  | some cause =>
    rw [barrier] at leads
    cases leads
  | none =>
    rw [barrier] at leads
    exact (Except.ok.inj leads).symm

theorem eq_entry_of_locate (plain : ¬w.files.IsName w.entry)
    (leads : w.files.locate w.place startedName = .ok spot) : spot = w.entry := by
  rw [locate_startedName_of_plain plain] at leads
  split at leads
  · cases leads
  · split at leads
    · exact (Except.ok.inj leads).symm
    · cases leads

/-- Only a link can have the name of a file that is not there. -/
theorem get?_entry_of_free (sound : w.files.Sound)
    (leads : w.files.locate w.place startedName = .ok spot) (free : w.files.get? spot = none) :
    w.files.get? w.entry = none ∨ ∃ target, w.files.get? w.entry = some (.link target) := by
  by_cases name : w.files.IsName w.entry
  · rcases name with linked | ⟨other, stands⟩
    · exact .inr linked
    · obtain rfl := eq_of_locate_of_twin stands leads
      exact absurd free (sound.isEnd_of_twin stands).1
  · exact .inl (eq_entry_of_locate name leads ▸ free)

end

/-! ### The search after the start -/

section

variable {w : Workspace} {force : Bool} {preset : Preset} {spot : Location}

def Preset.rules : Preset → RuleSet
  | standard => .standard
  | conventional => .conventional

theorem parse_text (preset : Preset) : Config.parse preset.text = .ok ⟨preset.rules, true, []⟩ := by
  cases preset with
  | standard => exact parse_standard
  | conventional => exact parse_conventional

/-- The path by which the configuration file in the current directory is found. -/
def Workspace.startedPath (w : Workspace) : String := Path.join (Path.ofNames w.place) startedName

theorem isFileName_startedName : FileTree.IsFileName startedName := by decide +kernel

theorem startedPath_eq (sound : w.files.Sound) (here : w.files.isDirectory w.place = true) :
    w.startedPath = Path.ofNames w.entry := by
  apply Path.join_ofNames
  intro name mem
  rcases List.mem_append.1 mem with mem | mem
  · exact (sound.names (FileTree.isDirectory_iff.1 here) name mem).1
  · exact List.mem_singleton.1 mem ▸ isFileName_startedName.1

theorem isEnd_of_canStart (sound : w.files.Sound) (can : w.CanStart force spot) :
    w.files.IsEnd spot := by
  rcases sound.isEnd_of_locate (isDirectory_of_locate can.leads) can.leads with directory | ends
  · exact absurd (FileTree.isDirectory_iff.1 directory) can.other
  · exact ends

theorem get?_started (can : w.CanStart force spot) :
    (w.started spot preset).files.get? spot = some (match w.files.get? spot with
      | some (.device kept) => .device kept
      | _ => .file preset.text.toUTF8) := by
  apply FileTree.get?_fill_self
  rintro rfl
  exact can.other rfl

theorem get?_started_of_not_device (can : w.CanStart force spot)
    (noDevice : ∀ kept, w.files.get? spot ≠ some (.device kept)) :
    (w.started spot preset).files.get? spot = some (.file preset.text.toUTF8) := by
  rw [get?_started can]
  split
  · next kept stands => exact absurd stands (noDevice kept)
  · rfl

theorem differsAt_started : w.files.DiffersAt (w.started spot preset).files spot :=
  FileTree.differsAt_fill w.files spot preset.text.toUTF8

theorem isEnd_started (can : w.CanStart force spot) : (w.started spot preset).files.IsEnd spot := by
  apply FileTree.isEnd_of_stands (get?_started can)
  split <;> rfl

/-- The path of the configuration file leads where its name does, if it is short enough and all
directories on the way can be looked into. -/
theorem locate_startedPath_iff (sound : w.files.Sound) (can : w.CanStart force spot)
    (preset : Preset) (out : Location) :
    (w.started spot preset).files.locate w.place w.startedPath = .ok out ↔
      w.startedPath.utf8ByteSize < FileTree.maxPathSize ∧
        (∀ above, above <+: w.place → w.files.fault? above = none) ∧ out = spot := by
  have here := isDirectory_of_locate can.leads
  have leads := can.leads
  rw [locate_startedName] at leads
  rw [differsAt_started.locate_iff (isEnd_of_canStart sound can) (isEnd_started can),
    startedPath_eq sound here, Workspace.entry,
    FileTree.locate_ofNames sound here isFileName_startedName, leads, Except.ok.injEq,
    eq_comm (a := spot)]

theorem currentPath?_started (sound : w.files.Sound) (can : w.CanStart force spot)
    (preset : Preset) :
    (w.started spot preset).currentPath? = some (Path.ofNames w.place) := by
  have here : (w.started spot preset).files.isDirectory w.place = true := by
    rw [differsAt_started.isDirectory (isEnd_of_canStart sound can) (isEnd_started can)]
    exact isDirectory_of_locate can.leads
  exact if_pos here

/-- The search begins with the configuration file in the current directory. -/
theorem findConfig_eq_startedPath_iff {w : Workspace}
    (here : w.currentPath? = some (Path.ofNames w.place)) :
    w.findConfig = some w.startedPath ↔ w.isFile w.startedPath = true := by
  rw [Workspace.findConfig, here, Option.bind_some]
  refine ⟨Workspace.isFile_of_findConfigFrom, fun file => ?_⟩
  obtain ⟨above, ancestors⟩ :=
    List.head?_eq_some_iff.1 (Path.head?_ancestors (Path.ofNames w.place))
  rw [Workspace.findConfigFrom, Config.candidates, ancestors]
  exact List.find?_cons_of_pos file

theorem findConfig_started_iff (sound : w.files.Sound) (can : w.CanStart force spot)
    (preset : Preset) :
    (w.started spot preset).findConfig = some w.startedPath ↔
      w.startedPath.utf8ByteSize < FileTree.maxPathSize ∧
        (∀ above, above <+: w.place → w.files.fault? above = none) ∧
        ∀ kept, w.files.get? spot ≠ some (.device kept) := by
  have search := findConfig_eq_startedPath_iff (currentPath?_started sound can preset)
  refine search.trans (FileTree.isFile_iff.trans ?_)
  constructor
  · rintro ⟨out, content, leads, stands⟩
    obtain ⟨short, usable, rfl⟩ := (locate_startedPath_iff sound can preset out).1 leads
    refine ⟨short, usable, fun kept device => ?_⟩
    rw [get?_started can, device] at stands
    cases stands
  · rintro ⟨short, usable, noDevice⟩
    have leads := (locate_startedPath_iff sound can preset spot).2 ⟨short, usable, rfl⟩
    exact ⟨spot, _, leads, get?_started_of_not_device can noDevice⟩

/-- A configuration file that is found is in force, if it can be read. -/
theorem chosenConfig_started (sound : w.files.Sound) (can : w.CanStart force spot)
    (found : (w.started spot preset).findConfig = some w.startedPath)
    (readable : w.files.fault? spot = none) :
    (w.started spot preset).chosenConfig none = .ok ⟨preset.rules, true, []⟩ := by
  obtain ⟨short, usable, noDevice⟩ := (findConfig_started_iff sound can preset).1 found
  have leads := (locate_startedPath_iff sound can preset spot).2 ⟨short, usable, rfl⟩
  have unfaulted : (w.started spot preset).files.fault? spot = none := by
    rw [Workspace.started, FileTree.fault?_fill, readable]
  have read : (w.started spot preset).readBytes w.startedPath = .ok preset.text.toUTF8 := by
    refine (FileTree.readBytes_of_locate leads).trans ?_
    simp only [FileTree.readAt, get?_started_of_not_device can noDevice, unfaulted, Node.read]
  have uses : (w.started spot preset).Uses none preset.text := ⟨_, found, read⟩
  rw [chosenConfig_of_uses uses]
  exact parse_text preset

end

/-- **The configuration that is started is the one in force.** A configuration file is started just
when its name in the current directory leads to a location where no directory stands, and nothing at
all that is not to be overwritten, and the system writes all of it; whatever the configuration files
there and elsewhere hold, none is looked at. What is there and not to be overwritten stays as it
was, and only a link that leads to nothing does not stand in the way. A run that starts the file
changes nothing but where its name leads, which is the name's own location unless that is but a
name. After it the file is found by its path from the root, just when this path is not too long, all
directories on it can be looked into, and what is written is kept. If it can be read, the
configuration in force is then that of the starter configuration. -/
theorem started_in_force {w : Workspace} (sound : w.files.Sound) {i : Invocation} {force : Bool}
    {preset : Preset} (command : i.command = .init force preset) (build : Build) (styled : Bool)
    (input : ByteArray) :
    let ending := (w.run build styled input i).1
    let after := (w.run build styled input i).2
    let entry := w.place ++ ["cmlint.toml"]
    let path := Path.join (Path.ofNames w.place) "cmlint.toml"
    (ending.exitCode = 0 ↔ ∃ spot, w.files.locate w.place "cmlint.toml" = .ok spot ∧
      w.files.get? spot ≠ some .directory ∧ (force = false → w.files.get? spot = none) ∧
      w.files.writing = .whole) ∧
    (force = false →
      (w.pathExists "cmlint.toml" = true → ending.exitCode = 2 ∧ after = w) ∧
      (ending.exitCode = 0 → w.files.get? entry = none ∨
        ∃ target, w.files.get? entry = some (.link target)) ∧
      (w.files.get? entry ≠ none → after.files.get? entry = w.files.get? entry)) ∧
    (∀ spot, w.files.locate w.place "cmlint.toml" = .ok spot → ending.exitCode = 0 →
      (¬w.files.IsName entry → spot = entry) ∧
      (∀ place, place ≠ spot → after.files.get? place = w.files.get? place) ∧
      (after.findConfig = some path ↔ path.utf8ByteSize < FileTree.maxPathSize ∧
        (∀ above, above <+: w.place → w.files.fault? above = none) ∧
        ∀ kept, w.files.get? spot ≠ some (.device kept)) ∧
      (after.findConfig = some path → after.files.get? spot = some (.file preset.text.toUTF8) ∧
        (w.files.fault? spot = none → ∃ rules, after.chosenConfig none = .ok ⟨rules, true, []⟩ ∧
          (preset = .standard → rules = .standard) ∧
          (preset = .conventional → rules.names = RuleName.all)))) := by
  have run : w.run build styled input i = w.start force preset := by rw [Workspace.run, command]
  rw [run]
  intro ending after entry path
  refine ⟨?_, ?_, ?_⟩
  · refine exitCode_start_iff.trans (exists_congr fun spot => ?_)
    constructor
    · intro can
      exact ⟨can.leads, can.other, can.free, can.whole⟩
    · rintro ⟨leads, other, free, whole⟩
      exact ⟨leads, other, free, whole⟩
  · rintro rfl
    refine ⟨start_of_pathExists, fun success => ?_, get?_entry_start⟩
    obtain ⟨spot, can⟩ := canStart_of_exitCode success
    exact get?_entry_of_free sound can.leads (can.free rfl)
  · intro spot leads success
    obtain ⟨other, can⟩ := canStart_of_exitCode success
    obtain rfl : other = spot := Except.ok.inj (can.leads.symm.trans leads)
    have changed : after = w.started other preset := congrArg Prod.snd (start_of_canStart can)
    rw [changed]
    refine ⟨fun plain => eq_entry_of_locate plain leads, differsAt_started.nodes,
      findConfig_started_iff sound can preset, fun found => ⟨?_, fun readable => ?_⟩⟩
    · exact get?_started_of_not_device can ((findConfig_started_iff sound can preset).1 found).2.2
    · refine ⟨preset.rules, chosenConfig_started sound can found readable, ?_, ?_⟩
      · rintro rfl
        rfl
      · rintro rfl
        decide

/-- What is asked for when a configuration file is started, with a configuration named that is not
there. -/
def startInvocation (force : Bool) (preset : Preset) : Invocation :=
  ⟨.init force preset, true, false, false, none, some "missing.toml"⟩

/-- A tree in which no file has a further name is sound if all that stands has a name and stands in
a directory. -/
theorem sound_of_single {tree : FileTree}
    (named : ∀ e ∈ tree.nodes, ∀ name ∈ e.1, FileTree.IsFileName name)
    (inside : ∀ e ∈ tree.nodes, tree.isDirectory e.1.dropLast = true)
    (single : ∀ e ∈ tree.nodes, (match e.2 with
      | .twin _ => true
      | _ => false) = false) : tree.Sound := by
  refine ⟨named, inside, fun e mem other twin => ?_⟩
  have none := single e mem
  rw [twin] at none
  cases none

/-- A workspace with a configuration file that is none, in the current directory and at home. -/
def brokenPlace : Workspace where
  files := ⟨[(["home"], .directory), (["work"], .directory),
    (["home", "cmlint.toml"], .file "[".toUTF8), (["work", "cmlint.toml"], .file "[".toUTF8)], [],
    .whole⟩
  place := ["work"]
  «variables» := ⟨some "/home", none, none⟩
  repositories := []

/-- Broken files are overwritten or do not count. -/
theorem started_in_force_broken :
    let run :=
      brokenPlace.run ⟨"0.1.0", none, none⟩ false .empty (startInvocation true .conventional)
    run.1.exitCode = 0 ∧ run.2.findConfig = some "/work/cmlint.toml" ∧
      ∃ rules, run.2.chosenConfig none = .ok ⟨rules, true, []⟩ ∧ rules.names = RuleName.all := by
  intro run
  have sound : brokenPlace.files.Sound :=
    sound_of_single (by decide +kernel) (by decide +kernel) (by decide +kernel)
  have leads : brokenPlace.files.locate ["work"] "cmlint.toml" = .ok ["work", "cmlint.toml"] := by
    decide +kernel
  obtain ⟨success, -, result⟩ :=
    started_in_force sound (i := startInvocation true .conventional) rfl
    ⟨"0.1.0", none, none⟩ false .empty
  have done : run.1.exitCode = 0 :=
    success.2 ⟨_, leads, by decide +kernel, nofun, rfl⟩
  obtain ⟨-, -, search, loaded⟩ := result _ leads done
  have path : Path.join (Path.ofNames brokenPlace.place) "cmlint.toml" = "/work/cmlint.toml" := by
    decide +kernel
  have found := search.2 ⟨by decide +kernel, fun _ _ => rfl,
    fun kept => by simp [brokenPlace, FileTree.get?]⟩
  obtain ⟨rules, chosen, -, names⟩ := (loaded found).2 rfl
  exact ⟨done, path ▸ found, rules, chosen, names rfl⟩

/-- A current directory that has been removed. -/
def gonePlace : Workspace :=
  ⟨FileTree.empty.makeDirectory ["work"], ["work", "gone"], ⟨none, none, none⟩, []⟩

/-- A name of some length. -/
def longName (length : Nat) : String := String.ofList (List.replicate length 'd')

theorem isFileName_longName {length : Nat} (positive : 0 < length)
    (short : (longName length).utf8ByteSize ≤ FileTree.maxNameSize) :
    FileTree.IsFileName (longName length) := by
  have text : (longName length).toList = 'd' :: List.replicate (length - 1) 'd' := by
    rw [longName, String.toList_ofList, ← List.replicate_succ, Nat.sub_add_cancel positive]
  refine ⟨⟨?_, ?_⟩, ?_, ?_, short⟩
  · rw [text]
    simp
  · rw [text]
    simp [Path.isIdle]
  · intro dots
    rw [dots] at text
    simp at text
  · rw [text]
    simp

/-- The names of directories in each other whose path is almost as long as a path can be. -/
def deepNames : Location := List.replicate 16 (longName 250) ++ [longName 70]

/-- The innermost of these directories. -/
def deepPlace : Workspace :=
  ⟨FileTree.empty.makeDirectory deepNames, deepNames, ⟨none, none, none⟩, []⟩

/-- A configuration file that is a link to a device which keeps nothing. -/
def nullPlace : Workspace where
  files := ⟨[(["dev"], .directory), (["dev", "null"], .device .empty), (["work"], .directory),
    (["work", "cmlint.toml"], .link "/dev/null")], [], .whole⟩
  place := ["work"]
  «variables» := ⟨none, none, none⟩
  repositories := []

/-- In a directory that has been removed no file is started, and on a system that has no room none
is started anew, whatever is to be overwritten. Where a link that leads to nothing has the name, one
is started though nothing is to be overwritten. One that is started is not found when its path is
too long, though that of the directory is not, or when it is a link to what keeps nothing. -/
theorem started_not_in_force :
    let run := fun (w : Workspace) force =>
      w.run ⟨"0.1.0", none, none⟩ false .empty (startInvocation force .standard)
    let found := fun (w : Workspace) force =>
      (run w force).2.findConfig = some (Path.join (Path.ofNames w.place) "cmlint.toml")
    (gonePlace.files.Sound ∧ gonePlace.files.get? (gonePlace.place ++ ["cmlint.toml"]) = none ∧
      (run gonePlace true).1.exitCode = 2) ∧
    (fullPlace.files.Sound ∧
      fullPlace.files.get? (fullPlace.place ++ ["cmlint.toml"]) = some (.file "[rules]\n".toUTF8) ∧
      (run fullPlace true).1.exitCode = 2) ∧
    (linkedPlace.files.Sound ∧
      linkedPlace.files.get? (linkedPlace.place ++ ["cmlint.toml"]) = some (.link "shared.toml") ∧
      (run linkedPlace false).1.exitCode = 0) ∧
    (deepPlace.files.Sound ∧
      (Path.ofNames deepPlace.place).utf8ByteSize < FileTree.maxPathSize ∧
      (run deepPlace false).1.exitCode = 0 ∧ ¬found deepPlace false) ∧
    (nullPlace.files.Sound ∧ (run nullPlace true).1.exitCode = 0 ∧ ¬found nullPlace true) := by
  intro run found
  have deepSound : deepPlace.files.Sound := by
    -- There are two names only, so that each of them is looked at once.
    have names : ∀ e ∈ deepPlace.files.nodes, ∀ name ∈ e.1, name ∈ [longName 250, longName 70] := by
      decide +kernel
    have fits : ∀ name ∈ [longName 250, longName 70], FileTree.IsFileName name := by
      simp only [List.forall_mem_cons, List.not_mem_nil, false_imp_iff, implies_true, and_true]
      exact ⟨isFileName_longName (by decide) (by decide +kernel),
        isFileName_longName (by decide) (by decide +kernel)⟩
    exact sound_of_single (fun e mem name inside => fits name (names e mem name inside))
      (by decide +kernel) (by decide +kernel)
  have goneSound : gonePlace.files.Sound :=
    sound_of_single (by decide +kernel) (by decide +kernel) (by decide +kernel)
  have fullSound : fullPlace.files.Sound :=
    sound_of_single (by decide +kernel) (by decide +kernel) (by decide +kernel)
  have linkedSound : linkedPlace.files.Sound :=
    sound_of_single (by decide +kernel) (by decide +kernel) (by decide +kernel)
  have nullSound : nullPlace.files.Sound :=
    sound_of_single (by decide +kernel) (by decide +kernel) (by decide +kernel)
  have linkedCan : linkedPlace.CanStart false ["work", "shared.toml"] :=
    ⟨by decide +kernel, by decide +kernel, fun _ => by decide +kernel, rfl⟩
  have deepCan : deepPlace.CanStart false deepPlace.entry :=
    ⟨by decide +kernel, by decide +kernel, fun _ => by decide +kernel, by decide +kernel⟩
  have nullCan : nullPlace.CanStart true ["dev", "null"] :=
    ⟨by decide +kernel, by decide +kernel, nofun, rfl⟩
  have starts {w : Workspace} {force : Bool} {spot : Location} (can : w.CanStart force spot) :
      (run w force).1.exitCode = 0 := exitCode_start_iff.2 ⟨spot, can⟩
  have after {w : Workspace} {force : Bool} {spot : Location} (can : w.CanStart force spot) :
      (run w force).2 = w.started spot .standard := congrArg Prod.snd (start_of_canStart can)
  refine ⟨⟨goneSound, by decide +kernel, by decide +kernel⟩,
    ⟨fullSound, by decide +kernel, by decide +kernel⟩,
    ⟨linkedSound, by decide +kernel, starts linkedCan⟩,
    ⟨deepSound, by decide +kernel, starts deepCan, ?_⟩,
    ⟨nullSound, starts nullCan, ?_⟩⟩
  · have long : ¬(Path.ofNames deepPlace.entry).utf8ByteSize < FileTree.maxPathSize := by
      decide +kernel
    rw [← startedPath_eq deepSound (isDirectory_of_locate deepCan.leads)] at long
    intro search
    simp only [found, after deepCan] at search
    exact long ((findConfig_started_iff deepSound deepCan .standard).1 search).1
  · intro search
    simp only [found, after nullCan] at search
    exact ((findConfig_started_iff nullSound nullCan .standard).1 search).2.2 .empty rfl

end CommitLint
