import CommitLint.Run

/-!
# Logs

While it works, a run notes what it does. The notes are no part of its result: each that is asked
for is written to standard error as a line of its own, ahead of the failure if there is one. Only
warnings are asked for, unless debugging is or a variable asks for others.

`Workspace.notes` lists the notes of a run in order, and `Workspace.standardError` is all that it
writes to standard error. How a line looks and what the variable means is left to `Logging`.
-/

namespace CommitLint

/-! ### Notes -/

/-- How much a note matters. -/
inductive NoteLevel
  | debug
  | warning
  deriving DecidableEq, Repr

/-- What a run notes. -/
inductive Note
  /-- Debugging is on. -/
  | debugging
  /-- A configuration file is looked at. -/
  | loading (path : String)
  /-- A configuration has been read. -/
  | loaded (rules ignores : Nat)
  /-- There is no configuration file. -/
  | unconfigured
  /-- Messages are checked. -/
  | checking (arguments : CheckArguments)
  /-- A configuration file is started. -/
  | starting (force : Bool) (preset : Preset)
  /-- The message of a commit is no text, and is read with replacements. -/
  | lossy (commit : ObjectId)
  /-- So many commits stand in a range. -/
  | counted (commits : Nat) (range : String)
  /-- A message is skipped. -/
  | skipping (header : String)
  /-- A rule is violated. -/
  | failed (rule : RuleName) (message : String)
  /-- A rule is not evaluated, as its value is not one that it takes. -/
  | strayValue (rule : RuleName)
  deriving DecidableEq

namespace Note

def level : Note → NoteLevel
  | lossy _ | strayValue _ => .warning
  | _ => .debug

def shownOption : Option String → String
  | none => "None"
  | some s => "Some(" ++ Text.quoted s ++ ")"

def shownBool (b : Bool) : String := if b then "true" else "false"

def shownPreset : Preset → String
  | .standard => "Default"
  | .conventional => "Conventional"

/-- A note in words. -/
def text : Note → String
  | debugging => "Debug logging enabled"
  | loading path => "Loading configuration from: " ++ Text.quoted path
  | loaded rules ignores =>
    "Loaded " ++ Nat.repr rules ++ " rule(s), " ++ Nat.repr ignores ++ " ignore pattern(s)"
  | unconfigured => "No configuration file found, using defaults"
  | checking a =>
    "Running check command with args: CheckArgs \x7b file: " ++ shownOption a.file ++ ", commit: "
      ++ shownOption a.commit ++ ", range: " ++ shownOption a.range ++ ", strict: "
      ++ shownBool a.strict ++ " \x7d"
  | starting force preset =>
    "Running init command with args: InitArgs \x7b force: " ++ shownBool force ++ ", preset: "
      ++ shownPreset preset ++ " \x7d"
  | lossy commit => "Commit " ++ commit.digits ++ " has a non UTF-8 message, linting lossily"
  | counted commits range => "Checking " ++ Nat.repr commits ++ " commit(s) in " ++ range
  | skipping header => "Ignoring message: " ++ header
  | failed rule message => "Rule " ++ rule.key ++ " failed: " ++ message
  | strayValue rule => "Skipping rule " ++ rule.key ++ ": value has the wrong type"

end Note

/-! ### What is noted -/

def ruleNotes (m : Message) (e : RuleEntry) : List Note :=
  if !e.2.isEnabled then []
  else if e.1.valueKind ≠ .none ∧ e.2.value.kind ≠ e.1.valueKind then [.strayValue e.1]
  else (findingOf e.1 e.2 m).toList.map fun f => .failed e.1 f.message

def Config.lintNotes (config : Config) (m : Message) : List Note :=
  if config.skips m then [.skipping m.header] else config.rules.enabled.flatMap (ruleNotes m)

namespace Workspace

/-- What the load of a configuration file notes. -/
def loadNotes (w : Workspace) (path : String) : List Note :=
  .loading path :: match w.loadConfigFrom path with
    | .ok config => [.loaded config.rules.size config.ignores.length]
    | .error _ => []

/-- What the choice of a configuration notes. -/
def configNotes (w : Workspace) (named : Option String) : List Note :=
  match named.or w.findConfig with
  | some path => w.loadNotes path
  | none => [.unconfigured]

/-- The commits whose messages a source stands for. -/
def sourceCommits (w : Workspace) : Source → List (ObjectId × Commit)
  | .commit revision => (w.history.bind (·.findCommit revision)).toOption.toList
  | .range range => ((w.history.bind (·.commitsIn range)).toOption).getD []
  | .standardInput | .file _ => []

/-- What the messages of a source are noted for before they are linted. -/
def sourceNotes (w : Workspace) (source : Source) : List Note :=
  (((w.sourceCommits source).filter fun c => !c.2.isText).map fun c => .lossy c.1)
    ++ match source with
      | .range range => [.counted (w.sourceCommits source).length range]
      | _ => []

def sourceMessages (w : Workspace) (input : ByteArray) : Source → List Message
  | .standardInput => ((messageInput input).toOption.map Message.parse).toList
  | .file path => ((w.messageFile path).toOption.map Message.ofEditFile).toList
  | source => (w.sourceCommits source).map fun c => Message.parse c.2.text

def checkNotes (w : Workspace) (input : ByteArray) (config : Config) (a : CheckArguments) :
    List Note :=
  .checking a :: match w.reports input config a.source with
    | .ok _ =>
      w.sourceNotes a.source ++ (w.sourceMessages input a.source).flatMap config.lintNotes
    | .error _ => []

/-- What a run notes, in order. -/
def notes (w : Workspace) (input : ByteArray) (i : Invocation) : List Note :=
  (if i.debug then [.debugging] else []) ++
    match i.command with
    | .check arguments =>
      w.configNotes i.config ++ match w.chosenConfig i.config with
        | .ok config => w.checkNotes input config arguments
        | .error _ => []
    | .rules => w.configNotes i.config
    | .init force preset => [.starting force preset]
    | .version => []

end Workspace

/-! ### What is written of it -/

/-- How notes are written. -/
structure Logging where
  /-- What the variable asks for, if it is set and understood. -/
  asked : Option (Note → Bool)
  /-- The line of a note, which tells the time as well. -/
  line : Note → String

namespace Logging

/-- Whether a note is written. -/
def shows (logging : Logging) (debug : Bool) (note : Note) : Bool :=
  if debug then true
  else match logging.asked with
    | some asks => asks note
    | none => decide (note.level = .warning)

/-- The lines of the notes that are written. -/
def lines (logging : Logging) (debug : Bool) (notes : List Note) : String :=
  String.join ((notes.filter (logging.shows debug)).map logging.line)

end Logging

/-- All that a run writes to standard error. -/
def Workspace.standardError (w : Workspace) (build : Build) (styled : Bool) (input : ByteArray)
    (i : Invocation) (logging : Logging) : String :=
  logging.lines i.debug (w.notes input i) ++ (w.run build styled input i).1.errorOutput

end CommitLint
