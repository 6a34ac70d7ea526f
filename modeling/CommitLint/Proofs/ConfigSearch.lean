import CommitLint.Proofs.CheckContract
import CommitLint.Proofs.FollowedPaths
import CommitLint.Workspace.Configuration
import Mathlib

/-!
# The search for the configuration

The configuration file is the first file of a list of paths, and what it holds is the configuration
or none: no file but the one found is ever read. One that stands later in the list may be the same,
though, by a link or because its path stands in the list twice.

* `findConfigFrom_eq_some_iff` — what is found is the first file;
* `findConfigFrom_of_agreesUpTo` — what stands later does not count;
* `agreesUpTo_of_differsAt` — a change at one location that no path up to the one found leads to;
* `discovery_first_file` — the search and what comes of it;
* `later_candidate_counts` — files later in the list that are the one found.
-/

namespace CommitLint

/-! ### Files that are loaded -/

/-- The configuration in the content of a file. -/
def Config.ofBytes (bytes : ByteArray) : Except ConfigError Config :=
  match String.fromUTF8? bytes with
  | none => .error (.unreadable "Failed to read config file: stream did not contain valid UTF-8")
  | some text => Config.parse text

/-- The configuration that comes of the content of a file, or of the failure to read it. -/
def Config.ofReading : Except FileError ByteArray → Except ConfigError Config
  | .error cause => .error (.unreadable ("Failed to read config file: " ++ cause.message))
  | .ok bytes => Config.ofBytes bytes

section

variable {w : Workspace} {path : String}

theorem pathExists_of_isFile (file : w.isFile path = true) : w.pathExists path = true := by
  obtain ⟨place, content, leads, stands⟩ := FileTree.isFile_iff.1 file
  refine FileTree.pathExists_iff.2 ⟨place, leads, ?_⟩
  rw [stands]
  exact Option.some_ne_none _

theorem pathExists_of_readBytes {bytes : ByteArray} (read : w.readBytes path = .ok bytes) :
    w.pathExists path = true := by
  rw [Workspace.readBytes] at read
  cases leads : w.files.locate w.place path with
  | error cause =>
    rw [FileTree.readBytes, leads] at read
    cases read
  | ok place =>
    refine FileTree.pathExists_iff.2 ⟨place, leads, fun free => ?_⟩
    rw [FileTree.readBytes_of_locate leads, FileTree.readAt, free] at read
    cases read

theorem loadConfigFrom_of_pathExists (there : w.pathExists path = true) :
    w.loadConfigFrom path = Config.ofReading (w.readBytes path) := by
  rw [Workspace.loadConfigFrom, there, Workspace.readText, FileTree.readText, Workspace.readBytes]
  cases w.files.readBytes w.place path with
  | error cause => rfl
  | ok bytes =>
    simp only [Config.ofReading, Config.ofBytes]
    cases decoded : String.fromUTF8? bytes <;> simp [bind, Except.bind, decoded, FileError.message]

theorem loadConfigFrom_of_readBytes {bytes : ByteArray} (read : w.readBytes path = .ok bytes) :
    w.loadConfigFrom path = Config.ofBytes bytes := by
  rw [loadConfigFrom_of_pathExists (pathExists_of_readBytes read), read]
  rfl

end

/-! ### The first file -/

/-- Whether a path is the first of some that leads to a file. -/
def Workspace.FirstFile (w : Workspace) (paths : List String) (path : String) : Prop :=
  w.isFile path = true ∧
    ∃ before after, paths = before ++ path :: after ∧ ∀ other ∈ before, w.isFile other = false

theorem findConfigFrom_eq_some_iff {w : Workspace} {start path : String} :
    w.findConfigFrom start = some path ↔
      w.FirstFile (Config.candidates w.variables start) path := by
  rw [Workspace.findConfigFrom, List.find?_eq_some_iff_append, Workspace.FirstFile]
  simp only [Bool.not_eq_true']

theorem findConfigFrom_eq_none_iff {w : Workspace} {start : String} :
    w.findConfigFrom start = none ↔
      ∀ path ∈ Config.candidates w.variables start, w.isFile path = false := by
  rw [Workspace.findConfigFrom, List.find?_eq_none]
  simp only [Bool.not_eq_true]

/-- Two workspaces in which the paths before one lead to files alike, and this path to the same
content. -/
structure Workspace.AgreesUpTo (w w' : Workspace) (before : List String) (path : String) :
    Prop where
  environment : w'.variables = w.variables
  before : ∀ other ∈ before, w'.isFile other = w.isFile other
  file : w'.isFile path = w.isFile path
  content : w'.readBytes path = w.readBytes path

/-- What stands at later paths does not count. -/
theorem findConfigFrom_of_agreesUpTo {w w' : Workspace} {start path : String}
    {before after : List String}
    (listed : Config.candidates w.variables start = before ++ path :: after)
    (found : w.findConfigFrom start = some path) (agrees : w.AgreesUpTo w' before path) :
    w'.findConfigFrom start = some path ∧ w'.loadConfigFrom path = w.loadConfigFrom path := by
  have file := Workspace.isFile_of_findConfigFrom found
  have file' : w'.isFile path = true := agrees.file.trans file
  refine ⟨?_, ?_⟩
  · -- Nothing is found before the path in either, and the search ends there.
    have same : before.find? w'.isFile = before.find? w.isFile :=
      List.find?_congr fun other mem => agrees.before other mem
    rw [Workspace.findConfigFrom, listed, List.find?_append] at found
    rw [Workspace.findConfigFrom, agrees.environment, listed, List.find?_append, same]
    rw [List.find?_cons_of_pos file] at found
    rw [List.find?_cons_of_pos file']
    exact found
  · rw [loadConfigFrom_of_pathExists (pathExists_of_isFile file),
      loadConfigFrom_of_pathExists (pathExists_of_isFile file'), agrees.content]

/-- A change at one location does not count, if no path up to the one found leads there and all of
them lead where they led. -/
theorem agreesUpTo_of_differsAt {w : Workspace} {files : FileTree} {spot : Location}
    {before : List String} {path : String} (differs : w.files.DiffersAt files spot)
    (file : w.isFile path = true)
    (alike : ∀ other ∈ before ++ [path], w.files.locate w.place other ≠ .ok spot ∧
      ∀ place, files.locate w.place other = .ok place ↔ w.files.locate w.place other = .ok place) :
    w.AgreesUpTo { w with files := files } before path := by
  have apart {other : String} (mem : other ∈ before ++ [path]) {place : Location}
      (leads : w.files.locate w.place other = .ok place) : place ≠ spot := by
    rintro rfl
    exact (alike other mem).1 leads
  have same : ∀ other ∈ before ++ [path],
      { w with files := files }.isFile other = w.isFile other := by
    intro other mem
    rw [Bool.eq_iff_iff, Workspace.isFile, Workspace.isFile, FileTree.isFile_iff,
      FileTree.isFile_iff]
    refine exists_congr fun place => exists_congr fun content => ?_
    rw [(alike other mem).2]
    exact and_congr_right fun leads => by rw [differs.nodes place (apart mem leads)]
  have last : path ∈ before ++ [path] := by simp
  refine ⟨rfl, fun other mem => same other (List.mem_append_left _ mem), same path last, ?_⟩
  obtain ⟨place, -, leads, -⟩ := FileTree.isFile_iff.1 file
  have leads' : files.locate w.place path = .ok place := ((alike path last).2 place).2 leads
  rw [Workspace.readBytes, Workspace.readBytes, FileTree.readBytes_of_locate leads,
    FileTree.readBytes_of_locate leads', FileTree.readAt, FileTree.readAt,
    differs.nodes place (apart last leads), differs.faults place (apart last leads)]

/-! ### The configuration in force -/

/-- The configuration of a workspace is that in the file found, unless this cannot be read. -/
theorem loadConfig_of_findConfig {w : Workspace} {path : String}
    (found : w.findConfig = some path) :
    ∃ spot content, w.files.locate w.place path = .ok spot ∧
      w.files.get? spot = some (.file content) ∧
      w.loadConfig = Config.ofReading (match w.files.fault? spot with
        | none => .ok content
        | some cause => .error cause) := by
  have file : w.isFile path = true := by
    obtain ⟨start, -, here⟩ := Option.bind_eq_some_iff.1 found
    exact Workspace.isFile_of_findConfigFrom here
  obtain ⟨spot, content, leads, stands⟩ := FileTree.isFile_iff.1 file
  refine ⟨spot, content, leads, stands, ?_⟩
  rw [Workspace.loadConfig, found]
  simp only [loadConfigFrom_of_pathExists (pathExists_of_isFile file), Workspace.readBytes,
    FileTree.readBytes_of_locate leads, FileTree.readAt, stands, Node.read]
  cases w.files.fault? spot <;> rfl

/-- Whether a document is the configuration that is asked for: it stands in the file that is named,
or else in the one that is found. -/
def Workspace.Uses (w : Workspace) (named : Option String) (document : String) : Prop :=
  ∃ path, named.or w.findConfig = some path ∧ w.readBytes path = .ok document.toUTF8

theorem chosenConfig_of_uses {w : Workspace} {named : Option String} {document : String}
    (uses : w.Uses named document) : w.chosenConfig named = Config.parse document := by
  obtain ⟨path, chosen, read⟩ := uses
  have loaded : w.loadConfigFrom path = Config.parse document := by
    rw [loadConfigFrom_of_readBytes read, Config.ofBytes, fromUTF8?_toUTF8]
  cases named with
  | some other =>
    obtain rfl : other = path := Option.some.inj chosen
    exact loaded
  | none =>
    have found : w.findConfig = some path := chosen
    rw [Workspace.chosenConfig, Workspace.loadConfig, found]
    exact loaded

/-! ### Other contents -/

/-- The workspace whose files have other contents. -/
def Workspace.refill (w : Workspace) (contents : Location → ByteArray) : Workspace :=
  { w with files := w.files.refill contents }

theorem findConfigFrom_refill (w : Workspace) (contents : Location → ByteArray) (start : String) :
    (w.refill contents).findConfigFrom start = w.findConfigFrom start :=
  List.find?_congr fun path _ => FileTree.isFile_refill w.files contents w.place path

theorem findConfig_refill (w : Workspace) (contents : Location → ByteArray) :
    (w.refill contents).findConfig = w.findConfig := by
  have place : (w.refill contents).currentPath? = w.currentPath? := by
    rw [Workspace.currentPath?, Workspace.currentPath?]
    simp only [Workspace.refill, FileTree.isDirectory_refill]
  rw [Workspace.findConfig, Workspace.findConfig, place]
  exact Option.bind_congr fun start _ => findConfigFrom_refill w contents start

/-- A byte that no text has. -/
def strayByte : ByteArray := ⟨#[0xFF]⟩

theorem ofBytes_strayByte_ne (config : Config) : Config.ofBytes strayByte ≠ .ok config := by
  have noText : String.fromUTF8? strayByte = none := by decide +kernel
  rw [Config.ofBytes, noText]
  exact fun same => by cases same

/-- No configuration is loaded from a file that holds what is no text. -/
theorem loadConfig_ne_of_strayByte {w : Workspace} {path : String}
    (found : w.findConfig = some path)
    (stray : ∀ e ∈ w.files.nodes, ∀ content, e.2 = .file content → content = strayByte)
    (config : Config) : w.loadConfig ≠ .ok config := by
  obtain ⟨spot, content, -, stands, loaded⟩ := loadConfig_of_findConfig found
  have below : spot ≠ [] := by
    rintro rfl
    cases stands
  rw [loaded, stray _ (FileTree.exists_mem_nodes below stands) content rfl]
  cases w.files.fault? spot with
  | none => exact ofBytes_strayByte_ne config
  | some cause => exact fun same => by cases same

/-- The standard configuration holds whatever the files contain just when no file is found. -/
theorem findConfig_eq_none_iff_standard (w : Workspace) :
    w.findConfig = none ↔ ∀ contents, (w.refill contents).loadConfig = .ok .standard := by
  constructor
  · intro none contents
    exact Workspace.loadConfig_of_findConfig_none ((findConfig_refill w contents).trans none)
  · intro always
    by_contra some
    -- A file that is found can hold what is no text, and then no configuration is loaded.
    obtain ⟨path, found⟩ := Option.ne_none_iff_exists'.1 some
    have found' : (w.refill fun _ => strayByte).findConfig = .some path :=
      (findConfig_refill w _).trans found
    refine loadConfig_ne_of_strayByte found' (fun e mem content file => ?_) _ (always _)
    obtain ⟨⟨place, node⟩, -, rfl⟩ := List.mem_map.1 mem
    cases node <;> cases file
    rfl

/-! ### The search -/

/-- **The first file of the search is the configuration, and nothing after it counts.** The paths
are those of three names in the start and in each place above it, the nearest first, then of the
same names at home, and at last one in the directory of all configurations. What is found is the
first of them that leads to a file, and nothing when none does. Whatever stands at later paths, the
same is found and the same comes of it, if the paths up to the one found lead to the same: so it is
with a change at any location that none of them leads to and from which no way leads on. Without a
file the standard configuration holds, and only then whatever the files contain; otherwise the
configuration is what the file found holds, or its failure. A path that is named is the only one
that is looked at. -/
theorem discovery_first_file (w : Workspace) (start : String) :
    let named := fun d =>
      [Path.join d "cmlint.toml", Path.join d ".cmlint.toml", Path.join d ".config/cmlint.toml"]
    let paths := (Path.ancestors start).flatMap named
      ++ w.variables.homeDirectory?.toList.flatMap named
      ++ w.variables.configDirectory?.toList.map fun d =>
        Path.join (Path.join d "cmlint") "config.toml"
    ((Path.ancestors start).head? = some start ∧
      (Path.ancestors start).map Path.names = (Path.names start).inits.reverse ∧
      (∀ d ∈ Path.ancestors start,
        d.toList <+: start.toList ∧ Path.isAbsolute d = Path.isAbsolute start) ∧
      ∀ ns, (∀ n ∈ ns, Path.IsName n) →
        Path.ancestors (Path.ofNames ns) = ns.inits.reverse.map Path.ofNames) ∧
    (∀ path, w.findConfigFrom start = some path ↔ w.FirstFile paths path) ∧
    (w.findConfigFrom start = none ↔ ∀ path ∈ paths, w.isFile path = false) ∧
    (∀ before path after, paths = before ++ path :: after → w.findConfigFrom start = some path →
      (∀ w', w.AgreesUpTo w' before path →
        w'.findConfigFrom start = some path ∧ w'.loadConfigFrom path = w.loadConfigFrom path ∧
        (w.currentPath? = some start → w'.currentPath? = some start →
          w'.loadConfig = w.loadConfig)) ∧
      ∀ files spot, w.files.DiffersAt files spot →
        (∀ other ∈ before ++ [path], w.files.locate w.place other ≠ .ok spot) →
        ((∀ other ∈ before ++ [path], ∀ place, files.locate w.place other = .ok place ↔
          w.files.locate w.place other = .ok place) →
          w.AgreesUpTo { w with files := files } before path) ∧
        (w.files.IsEnd spot → files.IsEnd spot →
          w.AgreesUpTo { w with files := files } before path ∧
            { w with files := files }.currentPath? = w.currentPath?)) ∧
    (w.findConfig = if w.files.isDirectory w.place then w.findConfigFrom (Path.ofNames w.place)
      else none) ∧
    (w.findConfig = none → w.loadConfig = .ok .standard) ∧
    (w.findConfig = none ↔ ∀ contents, (w.refill contents).loadConfig = .ok .standard) ∧
    (∀ path, w.findConfig = some path → ∃ spot content, w.files.locate w.place path = .ok spot ∧
      w.files.get? spot = some (.file content) ∧
      w.loadConfig = match w.files.fault? spot with
        | none => Config.ofBytes content
        | some cause => .error (.unreadable ("Failed to read config file: " ++ cause.message))) ∧
    w.chosenConfig none = w.loadConfig ∧
    ∀ path, w.chosenConfig (some path) =
      if w.pathExists path then Config.ofReading (w.readBytes path)
      else .error (.notFound path) := by
  intro named paths
  have listed : Config.candidates w.variables start = paths := rfl
  refine ⟨⟨Path.head?_ancestors start, Path.names_ancestors start,
    fun d => Path.prefix_of_mem_ancestors, fun ns => Path.ancestors_ofNames⟩,
    fun path => findConfigFrom_eq_some_iff, findConfigFrom_eq_none_iff, ?_, ?_,
    Workspace.loadConfig_of_findConfig_none, findConfig_eq_none_iff_standard w, ?_, rfl, ?_⟩
  · intro before path after split found
    have file := Workspace.isFile_of_findConfigFrom found
    refine ⟨?_, ?_⟩
    · intro w' agrees
      obtain ⟨found', same⟩ := findConfigFrom_of_agreesUpTo (listed.trans split) found agrees
      refine ⟨found', same, fun here here' => ?_⟩
      have first : w.findConfig = some path := by
        rw [Workspace.findConfig, here, Option.bind_some, found]
      have second : w'.findConfig = some path := by
        rw [Workspace.findConfig, here', Option.bind_some, found']
      rw [Workspace.loadConfig, Workspace.loadConfig, first, second]
      exact same
    · intro files spot differs elsewhere
      refine ⟨fun alike => ?_, fun ends ends' => ⟨?_, ?_⟩⟩
      · exact agreesUpTo_of_differsAt differs file fun other mem =>
          ⟨elsewhere other mem, alike other mem⟩
      · exact agreesUpTo_of_differsAt differs file fun other mem =>
          ⟨elsewhere other mem, differs.locate_iff ends ends' w.place other⟩
      · simp only [Workspace.currentPath?, differs.isDirectory ends ends']
  · rw [Workspace.findConfig, Workspace.currentPath?]
    split <;> rfl
  · intro path found
    obtain ⟨spot, content, leads, stands, loaded⟩ := loadConfig_of_findConfig found
    refine ⟨spot, content, leads, stands, ?_⟩
    rw [loaded]
    cases w.files.fault? spot <;> rfl
  · intro path
    cases there : w.pathExists path with
    | true => exact loadConfigFrom_of_pathExists there
    | false =>
      rw [Workspace.chosenConfig, Workspace.loadConfigFrom, there]
      rfl

/-- A workspace in the home directory, with a configuration file that is no text. -/
def homePlace : Workspace where
  files := ⟨[(["work"], .directory), (["work", "cmlint.toml"], .file strayByte)], [], .whole⟩
  place := ["work"]
  «variables» := ⟨some "/work", none, none⟩
  repositories := []

/-- A workspace in which the first path of the search leads to the file of the second. -/
def sharedPlace : Workspace where
  files := ⟨[(["work"], .directory), (["work", "cmlint.toml"], .link ".cmlint.toml"),
    (["work", ".cmlint.toml"], .file strayByte)], [], .whole⟩
  place := ["work"]
  «variables» := ⟨none, none, none⟩
  repositories := []

/-- A file later in the list counts if it is the one found: because its path stands in the list
twice, or because the path found is a link to it. -/
theorem later_candidate_counts :
    let later := fun w : Workspace => (Config.candidates w.variables "/work").tail
    let without := fun (w : Workspace) place => { w with files := w.files.remove place }
    (homePlace.findConfig = some "/work/cmlint.toml" ∧ "/work/cmlint.toml" ∈ later homePlace ∧
      homePlace.loadConfig ≠ .ok .standard ∧
      (without homePlace ["work", "cmlint.toml"]).loadConfig = .ok .standard) ∧
    (sharedPlace.findConfig = some "/work/cmlint.toml" ∧ "/work/.cmlint.toml" ∈ later sharedPlace ∧
      sharedPlace.loadConfig ≠ .ok .standard ∧
      (without sharedPlace ["work", ".cmlint.toml"]).loadConfig = .ok .standard) := by
  intro later without
  have home : homePlace.findConfig = some "/work/cmlint.toml" := by decide +kernel
  have shared : sharedPlace.findConfig = some "/work/cmlint.toml" := by decide +kernel
  have gone : (without homePlace ["work", "cmlint.toml"]).findConfig = none := by decide +kernel
  have dangling : (without sharedPlace ["work", ".cmlint.toml"]).findConfig = none := by
    decide +kernel
  have stray : homePlace.loadConfig ≠ .ok .standard :=
    loadConfig_ne_of_strayByte home (by simp [homePlace]) _
  have stray' : sharedPlace.loadConfig ≠ .ok .standard :=
    loadConfig_ne_of_strayByte shared (by simp [sharedPlace]) _
  exact ⟨⟨home, by decide +kernel, stray, Workspace.loadConfig_of_findConfig_none gone⟩,
    ⟨shared, by decide +kernel, stray', Workspace.loadConfig_of_findConfig_none dangling⟩⟩

end CommitLint
