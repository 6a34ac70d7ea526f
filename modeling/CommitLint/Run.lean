import CommitLint.Lint
import CommitLint.Listing
import CommitLint.Workspace.Configuration
import CommitLint.Workspace.Repository

/-!
# Runs

What a run does in a workspace: it loads the configuration, obtains the messages, and only then
writes anything. A run ends with what it has written and perhaps a failure; only the start of a
configuration file changes the workspace.
-/

namespace CommitLint

/-- What is known about the program. -/
structure Build where
  /-- The version. -/
  version : String
  /-- The commit that it was made from. -/
  commit : Option String
  /-- The date of that commit. -/
  date : Option String
  deriving DecidableEq, Repr

namespace Build

/-- The number of characters by which the commit is cited. -/
def shortSize : Nat := 7

/-- The version and in brackets what it was made from. -/
def description (build : Build) : String :=
  match build.commit, build.date with
  | some commit, some date =>
    build.version ++ " (" ++ (commit.take shortSize).toString ++ " " ++ date ++ ")"
  | some commit, none => build.version ++ " (" ++ (commit.take shortSize).toString ++ ")"
  | none, _ => build.version

def text (build : Build) : String :=
  "cmlint " ++ build.description ++ "\n"
    ++ String.join (build.commit.toList.map fun commit => "git commit: " ++ commit ++ "\n")
    ++ String.join (build.date.toList.map fun date => "commit date: " ++ date ++ "\n")

end Build

/-- How a run ends. -/
structure Ending where
  /-- What has been written. -/
  output : String
  /-- What went wrong, if anything did. -/
  failure : Option Failure
  deriving DecidableEq, Repr

namespace Ending

/-- The end of a run in which all went well. -/
def success (output : String) : Ending := ⟨output, none⟩

/-- The end of a run that could not do what was asked. -/
def failed (cause : Failure) : Ending := ⟨"", some cause⟩

def exitCode (e : Ending) : Nat := (e.failure.map Failure.exitCode).getD 0

/-- What is written about the failure. What a run notes besides is no part of its end. -/
def errorOutput (e : Ending) : String :=
  (e.failure.map fun cause => "Error: " ++ cause.message ++ "\n").getD ""

end Ending

/-! ### Checks -/

def Config.lintCommit (config : Config) (c : Workspace.CommitMessage) : Report :=
  (config.lint (Message.parse c.2)).ofCommit c.1.digits

namespace Workspace

/-- The text of a message in a file. -/
def messageFile (w : Workspace) (path : String) : Except InputError String :=
  match w.readBytes path with
  | .error e => .error (.readFailed path e.message)
  | .ok bytes =>
    match String.fromUTF8? bytes with
    | none => .error (.notText path)
    | some text => .ok text

/-- The text of a message from standard input. -/
def messageInput (input : ByteArray) : Except InputError String :=
  match String.fromUTF8? input with
  | none => .error (.readFailed "stdin" FileError.notText.message)
  | some text => .ok text

/-- The reports of the messages of a source. -/
def reports (w : Workspace) (input : ByteArray) (config : Config) :
    Source → Except Failure (List Report)
  | .standardInput =>
    (messageInput input).mapError .input |>.map fun text => [config.lint (Message.parse text)]
  | .file path =>
    (w.messageFile path).mapError .input |>.map fun text => [config.lint (Message.ofEditFile text)]
  | .commit revision => (w.commit revision).mapError .history |>.map fun c => [config.lintCommit c]
  | .range range => (w.commits range).mapError .history |>.map fun cs => cs.map config.lintCommit

end Workspace

/-- The number of violations in reports that fail the check. -/
def totalErrors (reports : List Report) : Nat := reports.foldr (fun r n => r.errorCount + n) 0

/-- The number of violations in reports that do not fail the check. -/
def totalWarnings (reports : List Report) : Nat := reports.foldr (fun r n => r.warningCount + n) 0

def isRejected (strict : Bool) (reports : List Report) : Bool :=
  decide (0 < totalErrors reports) || (strict && decide (0 < totalWarnings reports))

/-- The end of a check with some reports. -/
def Ending.ofReports (i : Invocation) (styled strict : Bool) (reports : List Report) : Ending where
  output :=
    if i.format = some .json then Listing.reportsJson reports
    else Listing.reportsText styled i.quiet reports
  failure :=
    if isRejected strict reports then
      some (.rejected (totalErrors reports) (totalWarnings reports))
    else none

/-! ### Commands -/

/-- The name of the configuration file that is started. -/
def startedName : String := "cmlint.toml"

/-- The end of a run that got something, or failed to. -/
def Ending.ofResult (result : Except Failure Ending) : Ending :=
  match result with
  | .ok e => e
  | .error cause => failed cause

namespace Workspace

/-- Checks messages. -/
def check (w : Workspace) (i : Invocation) (styled : Bool) (input : ByteArray)
    (arguments : CheckArguments) : Ending :=
  .ofResult do
    let config ← (w.chosenConfig i.config).mapError .config
    let reports ← w.reports input config arguments.source
    return .ofReports i styled arguments.strict reports

/-- Lists the rules. -/
def listRules (w : Workspace) (i : Invocation) (styled : Bool) : Ending :=
  .ofResult do
    let config ← (w.chosenConfig i.config).mapError .config
    return .success
      (if i.format = some .json then Listing.configJson config
      else Listing.rulesText styled config.rules)

/-- Starts a configuration file. One that is there already is kept unless it is said otherwise. -/
def start (w : Workspace) (force : Bool) (preset : Preset) : Ending × Workspace :=
  if w.pathExists startedName && !force then
    (.failed (.during "init" (startedName ++ " already exists. Use --force to overwrite.")), w)
  else
    match w.writeText startedName preset.text with
    | (.error e, after) => (.failed (.during ("Failed to write " ++ startedName) e.message), after)
    | (.ok _, after) => (.success ("✓ Created " ++ startedName ++ "\n"), after)

/-- Does what is asked. -/
def run (w : Workspace) (build : Build) (styled : Bool) (input : ByteArray)
    (i : Invocation) : Ending × Workspace :=
  match i.command with
  | .check arguments => (w.check i styled input arguments, w)
  | .rules => (w.listRules i styled, w)
  | .init force preset => w.start force preset
  | .version => (.success build.text, w)

end Workspace

end CommitLint
