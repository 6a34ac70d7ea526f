/-!
# Failures

What can go wrong apart from rule violations: the configuration, the repository, the input of a
message, a file, or a check that was carried out and did not pass. `Failure.message` words them and
`Failure.exitCode` tells the last kind from the others.
-/

namespace CommitLint

/-- What is wrong with a configuration. -/
inductive ConfigError
  /-- There is no such file. -/
  | notFound (path : String)
  /-- The file cannot be read, or is no configuration. -/
  | unreadable (message : String)
  /-- There is no such rule. -/
  | unknownRule (rule : String)
  /-- The severity of a rule is none. -/
  | invalidSeverity (rule found : String)
  /-- The applicability of a rule is none. -/
  | invalidApplicability (rule found : String)
  /-- The value under a key is not what the key takes. -/
  | invalidValue (key message : String)
  /-- A rule lacks the value it takes. -/
  | missingValue (rule : String)
  deriving DecidableEq, Repr

/-- What is wrong with a repository or a reference into it. -/
inductive HistoryError
  /-- There is no repository. -/
  | notARepository
  /-- The repository cannot be opened. -/
  | cannotOpen (message : String)
  /-- A reference names no commit. -/
  | invalidReference (reference : String)
  /-- A command on the repository does not succeed. -/
  | commandFailed (command message : String)
  deriving DecidableEq, Repr

/-- Why there is no message to check. -/
inductive InputError
  /-- The source cannot be read. -/
  | readFailed (source message : String)
  /-- The content of the source is no text. -/
  | notText (source : String)
  deriving DecidableEq, Repr

/-- Why a run does not succeed. -/
inductive Failure
  /-- The configuration. -/
  | config (cause : ConfigError)
  /-- The repository. -/
  | history (cause : HistoryError)
  /-- The input of a message. -/
  | input (cause : InputError)
  /-- A file, with the words of the system. -/
  | file (message : String)
  /-- The check was carried out and does not pass. -/
  | rejected (errors warnings : Nat)
  /-- A failure within an activity that is named. -/
  | during (activity message : String)
  deriving DecidableEq, Repr

/-- A configuration error in words. -/
def ConfigError.message : ConfigError → String
  | notFound path => "Configuration file not found: " ++ path
  | unreadable message => "Failed to parse configuration: " ++ message
  | unknownRule rule => "Unknown rule '" ++ rule ++ "'"
  | invalidSeverity rule found =>
    "Invalid severity for '" ++ rule ++ "': " ++ found
      ++ " (expected 0, 1, 2, \"off\", \"warning\" or \"error\")"
  | invalidApplicability rule found =>
    "Invalid applicability for '" ++ rule ++ "': " ++ found ++ " (expected \"always\" or \"never\")"
  | invalidValue key message => "Invalid configuration value for '" ++ key ++ "': " ++ message
  | missingValue rule => "Missing required value for '" ++ rule ++ "'"

def HistoryError.message : HistoryError → String
  | notARepository => "Not a git repository"
  | cannotOpen message => "Failed to open repository: " ++ message
  | invalidReference reference => "Invalid commit reference: " ++ reference
  | commandFailed command message => "Git command failed: " ++ command ++ " - " ++ message

def InputError.message : InputError → String
  | readFailed source message => "Failed to read message from " ++ source ++ ": " ++ message
  | notText source => "Commit message is not valid UTF-8: " ++ source

namespace Failure

/-- A failure in words. -/
def message : Failure → String
  | config cause => "Invalid configuration: " ++ cause.message
  | history cause => "Git error: " ++ cause.message
  | input cause => "Message error: " ++ cause.message
  | file text => "IO error: " ++ text
  | rejected errors warnings =>
    "Commit message check failed: " ++ Nat.repr errors ++ " error(s), " ++ Nat.repr warnings
      ++ " warning(s)"
  | during activity text => activity ++ ": " ++ text

/-- The exit code of a run with the failure: 1 if the check was carried out, 2 if it could not
be. -/
def exitCode : Failure → Nat
  | rejected _ _ => 1
  | _ => 2

/-- The failure of an activity, told with the activity. -/
def within (activity : String) (f : Failure) : Failure := during activity f.message

end Failure

/-! ### What does not fail -/

section

variable {ε δ α β : Type} {x : Except ε α}

/-- What is done in two steps succeeds when both do. -/
theorem bind_eq_ok_iff {f : α → Except ε β} {b : β} :
    (x >>= f) = .ok b ↔ ∃ a, x = .ok a ∧ f a = .ok b := by
  cases x <;> simp [bind, Except.bind]

theorem map_eq_ok_iff {f : α → β} {b : β} : x.map f = .ok b ↔ ∃ a, x = .ok a ∧ f a = b := by
  cases x <;> simp [Except.map]

theorem mapError_eq_ok_iff {f : ε → δ} {a : α} : x.mapError f = .ok a ↔ x = .ok a := by
  cases x with
  | error e => exact ⟨nofun, nofun⟩
  | ok b => exact ⟨fun found => Except.ok.inj found ▸ rfl, fun found => Except.ok.inj found ▸ rfl⟩

end

end CommitLint
