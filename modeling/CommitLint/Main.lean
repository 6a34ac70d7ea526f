import CommitLint.CommandLine.Reader
import CommitLint.Log
import CommitLint.Storage.Repository

/-!
# The program

Reads from the system what a run may look at, runs, and writes what has come of it.
-/

namespace CommitLint.Program

/-! ### Files -/

/-- The location that a path from the root leads to, when no name on the way stands for another
place. -/
def locationOf (path : String) : Location :=
  (Path.parts path.toList).foldl
    (fun place name =>
      if name = [] ∨ name = ['.'] then place
      else if name = ['.', '.'] then place.dropLast
      else place ++ [String.ofList name])
    []

/-- A failure of the system as one that a run knows. -/
def causeOf : IO.Error → FileError
  | .permissionDenied .. => .denied
  | .resourceExhausted .. => .noSpace
  | e => .other (toString e)

/-- The tree with what stands at a location, if something does. Links have been followed by the
system, and a device is read only if it is asked for. -/
def addLocation (devices : Bool) (files : FileTree) (place : Location) : IO FileTree := do
  if (files.get? place).isSome then return files
  let path := (← IO.currentDir) / Path.ofNames place
  try
    match (← path.metadata).type with
    | .dir => return files.put place .directory
    | .file =>
      try return files.put place (.file (← IO.FS.readBinFile path))
      catch e =>
        let files := files.put place (.file .empty)
        return { files with faults := (place, causeOf e) :: files.faults }
    | _ =>
      let content ← if devices then IO.FS.readBinFile path else pure .empty
      return files.put place (.device content)
  catch _ => return files

/-- The tree with what stands where paths lead to, and on the way there. -/
def addPaths (devices : Bool) (base : String) (files : FileTree) (paths : List String) :
    IO FileTree :=
  (paths.flatMap fun path => FileTree.along (locationOf (Path.join base path))).foldlM
    (addLocation devices) files

def namedPaths (i : Invocation) : List String :=
  let messages := match i.command with
    | .check arguments => arguments.file.toList
    | _ => []
  messages ++ i.config.toList

/-- The other paths that a run may look at for files. -/
def usualPaths (v : Variables) (base : String) : List String :=
  "." :: startedName :: Config.candidates v base

/-! ### Repositories -/

/-- The paths that tell whether a directory is a repository. -/
def repositoryPaths (directory : String) : List String :=
  [History.headName, "objects", "refs"].map (Path.join directory)

/-- The paths that a run may look at for the repository in some directories. -/
def repositoryCandidates (places : List Location) : List String :=
  places.flatMap fun place =>
    let directory := Path.ofNames place
    repositoryPaths directory ++ repositoryPaths (Path.join directory Workspace.repositoryName)

/-- The repositories that links in some directories lead to. -/
def linkedDirectories (files : FileTree) (places : List Location) : List String :=
  places.filterMap fun place =>
    match files.get? (place ++ [Workspace.repositoryName]) with
    | some (.file link) =>
      (Workspace.linkTarget? (Text.decodeLossy link)).map (Path.join (Path.ofNames place))
    | _ => none

def namesIn (path : String) : IO (List String) := do
  try
    return ((← ((← IO.currentDir) / path).readDir).toList.map (·.fileName))
  catch _ => return []

/-- The text of a file, or none if it cannot be read. -/
def textOf (path : String) : IO String := do
  try
    return Text.decodeLossy (← IO.FS.readBinFile path)
  catch _ => return ""

/-- The references in files below a directory, with the names that start with `name`. -/
partial def looseReferences (directory name : String) : IO (List (String × ObjectId)) := do
  if ← ((← IO.currentDir) / directory).isDir then
    let found ← (← namesIn directory).mapM fun part =>
      looseReferences (Path.join directory part) (name ++ "/" ++ part)
    return found.flatten
  else
    return (Storage.referenceOf? (← textOf directory)).toList.map fun id => (name, id)

/-- The objects in files of their own. -/
def looseObjects (directory : String) : IO (List (ObjectId × Storage.Stored)) := do
  let found ← (← namesIn directory).mapM fun start => do
    (← namesIn (Path.join directory start)).filterMapM fun rest => do
      let some id := ObjectId.ofDigits? (start ++ rest) | return none
      let bytes ← IO.FS.readBinFile (Path.join (Path.join directory start) rest)
      return (Storage.aloneIn? bytes).map fun stored => (id, stored)
  return found.flatten

/-- The objects in packs. -/
def packedObjects (directory : String) : IO (List (ObjectId × Storage.Stored)) := do
  let indices := (← namesIn directory).filter fun name => Text.endsWith name ".idx"
  let found ← indices.mapM fun name => do
    let path := Path.join directory name
    let index ← IO.FS.readBinFile path
    let pack ← IO.FS.readBinFile (String.ofList (path.toList.dropLast.dropLast.dropLast) ++ "pack")
    return Storage.packedIn pack (.ofBytes index)
  return found.flatten

/-- What the repository in a directory records. -/
def historyIn (directory : String) : IO History := do
  let objects := Path.join directory "objects"
  let stored := (← looseObjects objects) ++ (← packedObjects (Path.join objects "pack"))
  let references := (← looseReferences (Path.join directory "refs") "refs")
    ++ Storage.packedReferences (← textOf (Path.join directory "packed-refs"))
  let head := (Storage.headIn? (← textOf (Path.join directory History.headName))).getD
    History.initial.head
  return History.ofStored stored references head

def needsHistory (i : Invocation) : Bool :=
  match i.command with
  | .check arguments => arguments.commit.isSome || arguments.range.isSome
  | _ => false

/-! ### Runs -/

/-- What a run finds around it. -/
def workspaceOf (v : Variables) (i : Invocation) : IO Workspace := do
  let base := (← IO.currentDir).toString
  let place := locationOf base
  let files ← addPaths true base .empty (namedPaths i)
  let files ← addPaths false base files (usualPaths v base)
  if !needsHistory i then return ⟨files, place, v, []⟩
  let places := Workspace.upwards place
  let files ← addPaths false base files (repositoryCandidates places)
  let files ← addPaths false base files ((linkedDirectories files places).flatMap repositoryPaths)
  match (Workspace.mk files place v []).repositoryAmong places with
  | .ok repository =>
    return ⟨files, place, v, [(repository, ← historyIn (Path.ofNames repository))]⟩
  | .error _ => return ⟨files, place, v, []⟩

/-- Writes the files in which a workspace differs from what it was, and tells why it cannot. -/
def writeChanges (before after : Workspace) : IO (Option FileError) := do
  try
    after.files.nodes.forM fun (place, node) =>
      match node with
      | .file content =>
        if before.files.get? place = some node then pure ()
        else IO.FS.writeBinFile (Path.ofNames place) content
      | _ => pure ()
    return none
  catch e => return some (causeOf e)

/-- The notes that a level named by a variable asks for. -/
def askedBy? (level : String) : Option (Note → Bool) :=
  match level.toLower with
  | "off" | "error" => some fun _ => false
  | "warn" | "info" => some fun note => note.level = .warning
  | "debug" | "trace" => some fun _ => true
  | _ => none

/-- A note as it is written, without the time. -/
def lineOf (note : Note) : String :=
  (match note.level with
    | .debug => "DEBUG "
    | .warning => " WARN ") ++ note.text ++ "\n"

def build : Build := ⟨"0.1.0", none, none⟩

/-- What is written when there is no invocation. -/
def stopText : CommandLine.Stop → String
  | .unknownArgument => "error: unexpected argument found"
  | .invalidSubcommand => "error: unrecognized subcommand"
  | .invalidValue => "error: invalid value"
  | .tooManyValues => "error: unexpected value"
  | .argumentConflict => "error: arguments cannot be used together"
  | .displayHelp => "Usage: cmlint [OPTIONS] [check|rules|init|version]"
  | .displayVersion => "cmlint " ++ build.version

/-- All bytes of standard input, if a run needs them. -/
def inputFor (i : Invocation) : IO ByteArray := do
  match i.command with
  | .check arguments =>
    if arguments.source = .standardInput then (← IO.getStdin).readBinToEnd else return .empty
  | _ => return .empty

/-- Does what the arguments ask for. -/
def run (arguments : List String) : IO UInt32 := do
  let v : Variables :=
    ⟨← IO.getEnv "HOME", ← IO.getEnv "XDG_CONFIG_HOME", ← IO.getEnv "CMLINT_CONFIG"⟩
  match Invocation.read v.configFile arguments with
  | .error stop =>
    if stop.exitCode = 0 then IO.println (stopText stop) else IO.eprintln (stopText stop)
    return UInt32.ofNat stop.exitCode
  | .ok i =>
    let before ← workspaceOf v i
    let input ← inputFor i
    let styled ← (← IO.getStdout).isTty
    let (ending, after) := before.run build styled input i
    let ending ← match ← writeChanges before after with
      | none => pure ending
      | some cause =>
        let files := { before.files with writing := .cut 0 cause }
        pure ({ before with files := files }.run build styled input i).1
    IO.print ending.output
    let logging : Logging := ⟨(← IO.getEnv "RUST_LOG").bind askedBy?, lineOf⟩
    IO.eprint (logging.lines i.debug (before.notes input i) ++ ending.errorOutput)
    return UInt32.ofNat ending.exitCode

end CommitLint.Program

/-- Runs the program. -/
def main (arguments : List String) : IO UInt32 := CommitLint.Program.run arguments
