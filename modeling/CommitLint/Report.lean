import CommitLint.Violation

/-!
# Reports

A report lists the violations of one message in the order in which the rules were declared.
`validate` makes the report of a message, `Report.print` is what is written about it.
-/

namespace CommitLint

/-- What was found about one message. -/
structure Report where
  /-- The identifier of the commit, if the message is a commit's. -/
  commitSha : Option String
  /-- The header of the message. -/
  header : String
  /-- Whether the message was skipped. -/
  ignored : Bool
  /-- The violations in order. -/
  violations : List Violation
  deriving DecidableEq, Repr

namespace Report

/-- The report without violations for a header. -/
def clean (header : String) : Report := ⟨none, header, false, []⟩

/-- The report of a message that was skipped. -/
def skipped (header : String) : Report := ⟨none, header, true, []⟩

/-- The report with one more violation, last. -/
def push (r : Report) (v : Violation) : Report := { r with violations := r.violations ++ [v] }

def ofCommit (r : Report) (sha : String) : Report := { r with commitSha := some sha }

def errors (r : Report) : List Violation := r.violations.filter (·.isError)

/-- The violations that do not fail the check. -/
def warnings (r : Report) : List Violation := r.violations.filter (!·.isError)

/-- The number of violations that fail the check. -/
def errorCount (r : Report) : Nat := r.errors.length

/-- The number of violations that do not fail the check. -/
def warningCount (r : Report) : Nat := r.warnings.length

def isValid (r : Report) : Bool := decide (r.errorCount = 0)

def isEmpty (r : Report) : Bool := r.violations.isEmpty

def rules (r : Report) : List RuleName := r.violations.map (·.rule)

def summary (r : Report) : String :=
  if r.ignored then "Ignored"
  else if r.isValid then
    if r.warningCount = 0 then "Valid" else "Valid (" ++ Nat.repr r.warningCount ++ " warnings)"
  else "Invalid (" ++ Nat.repr r.errorCount ++ " errors, " ++ Nat.repr r.warningCount
    ++ " warnings)"

/-- The mark that a printed report starts with. -/
def mark (r : Report) : Terminal.Piece :=
  if r.ignored then Terminal.dim "-"
  else if r.isValid then Terminal.bold .green "✓"
  else Terminal.bold .red "✗"

/-- The number of bytes by which a commit's identifier is cited. -/
def shortShaSize : Nat := 7

/-- The longest start of the characters that has no more than `size` bytes, if those bytes end where
a character ends or the characters do. -/
def byteTake? (size : Nat) : List Char → Option (List Char)
  | [] => some []
  | c :: cs =>
    if size = 0 then some []
    else if c.utf8Size ≤ size then (byteTake? (size - c.utf8Size) cs).map (c :: ·)
    else none

/-- The start of an identifier by which the commit is cited. There is none if it would end within a
character. -/
def shortSha? (sha : String) : Option String :=
  (byteTake? shortShaSize sha.toList).map String.ofList

def headline? (styled : Bool) (r : Report) : Option String :=
  match r.commitSha with
  | none => some (r.mark.render styled ++ " " ++ r.header ++ "\n")
  | some sha => (shortSha? sha).map fun short =>
    r.mark.render styled ++ " " ++ (Terminal.plain .cyan short).render styled ++ " "
      ++ r.header ++ "\n"

/-- The lines of a printed report after the first: the violations and, if there are any, the
summary. -/
def details (styled : Bool) (r : Report) : String :=
  String.join (r.violations.map fun v => "  " ++ v.format styled ++ "\n")
  ++ if r.violations.isEmpty then "" else "  " ++ (Terminal.dim r.summary).render styled ++ "\n"

/-- The report as it is printed. There is none if the commit cannot be cited. -/
def print? (styled : Bool) (r : Report) : Option String :=
  (r.headline? styled).map (· ++ r.details styled)

end Report

/-- Evaluates every rule of the set that is not off against a message. -/
def validate (m : Message) (rules : RuleSet) : Report :=
  { Report.clean m.header with
    violations := rules.enabled.filterMap fun e => checkRule e.1 e.2 m }

theorem ignored_validate (m : Message) (rules : RuleSet) : (validate m rules).ignored = false := rfl

end CommitLint
