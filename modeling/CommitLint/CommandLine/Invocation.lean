import CommitLint.Config.Preset

/-!
# Invocations

What a run is asked to do: a command with what it needs, and what holds for every command.
-/

namespace CommitLint

/-- How results are written. -/
inductive Format
  | text
  | json
  deriving DecidableEq, Repr

namespace Format

def name : Format → String
  | text => "text"
  | json => "json"

def ofName? (s : String) : Option Format := [text, json].find? fun format => format.name = s

theorem ofName?_name (format : Format) : ofName? format.name = some format := by
  cases format <;> decide

end Format

/-- What a check is given. -/
structure CheckArguments where
  /-- The file of the message. -/
  file : Option String
  /-- The commit whose message is checked. -/
  commit : Option String
  /-- The range of commits whose messages are checked. -/
  range : Option String
  /-- Whether warnings fail the check as well. -/
  strict : Bool
  deriving DecidableEq, Repr

/-- Where messages come from. -/
inductive Source
  /-- From standard input. -/
  | standardInput
  /-- From a file. -/
  | file (path : String)
  /-- From a commit. -/
  | commit (revision : String)
  /-- From the commits of a range. -/
  | range (range : String)
  deriving DecidableEq, Repr

/-- Where the messages of a check come from: from standard input if nothing else is given, or a
hyphen for a file. -/
def CheckArguments.source (a : CheckArguments) : Source :=
  match a.range, a.commit, a.file with
  | some range, _, _ => .range range
  | none, some revision, _ => .commit revision
  | none, none, some path => if path = "-" then .standardInput else .file path
  | none, none, none => .standardInput

/-- The number of sources that a check is given. -/
def CheckArguments.sourceCount (a : CheckArguments) : Nat :=
  a.file.toList.length + a.commit.toList.length + a.range.toList.length

/-- A command. -/
inductive Command
  /-- Check messages. -/
  | check (arguments : CheckArguments)
  /-- List the rules. -/
  | rules
  /-- Start a configuration file. -/
  | init (force : Bool) (preset : Preset)
  /-- Tell the version. -/
  | version
  deriving DecidableEq, Repr

/-- What a run is asked to do. -/
structure Invocation where
  /-- The command. -/
  command : Command
  /-- Whether the command was named. -/
  explicit : Bool
  /-- Whether to tell what is done. -/
  debug : Bool
  /-- Whether to leave out what is in order. -/
  quiet : Bool
  /-- How results are written, if it was said. -/
  format : Option Format
  /-- The configuration file, if one was named. -/
  config : Option String
  deriving DecidableEq, Repr

end CommitLint
