import CommitLint.Finding
import CommitLint.RuleSet
import CommitLint.Terminal

/-!
# Violations

A violation is a finding attributed to a rule and its severity. `checkRule` evaluates one rule
against a message: a rule that is off, or whose value has not the shape the rule takes, gives none.
-/

namespace CommitLint

/-- A rule that a message does not pass. -/
structure Violation where
  /-- The rule. -/
  rule : RuleName
  /-- The severity it is set to. -/
  severity : Severity
  /-- What is wrong. -/
  message : String
  /-- What may be done about it. -/
  suggestion : Option String
  deriving DecidableEq, Repr

/-- A finding attributed to a rule and its severity. -/
def Finding.toViolation (finding : Finding) (rule : RuleName) (severity : Severity) :
    Violation where
  rule := rule
  severity := severity
  message := finding.message
  suggestion := finding.suggestion

/-- What a rule finds wrong with a message, whatever its severity. -/
def findingOf (rule : RuleName) (setting : Setting) (m : Message) : Option Finding :=
  let asked := setting.applicability
  match rule, setting.value with
  | .headerMaxLength, .length max => Finding.ofHeaderLength m.header 0 max asked
  | .headerMinLength, .length min => Finding.ofHeaderLength m.header min Finding.maxLength asked
  | .signedOffBy, .text marker => Finding.ofSignOff m.body marker asked
  | .typeEnum, .list allowed => Finding.ofTypeList m.conventional allowed asked
  | .typeEmpty, _ => Finding.ofTypeEmpty m.conventional asked
  | .subjectEmpty, _ => Finding.ofSubjectEmpty m.conventional asked
  | .subjectFullStop, .text stop => Finding.ofFullStop m.conventional stop asked
  | .bodyLeadingBlank, _ => Finding.ofLeadingBlank m.body asked
  | .bodyMaxLineLength, .length max => Finding.ofBodyLines m.body max asked
  | _, _ => none

/-- Evaluates one rule against a message. -/
def checkRule (rule : RuleName) (setting : Setting) (m : Message) : Option Violation :=
  if setting.isEnabled then (findingOf rule setting m).map
    (·.toViolation rule setting.severity) else none

theorem checkRule_off (rule : RuleName) (setting : Setting) (m : Message)
    (h : setting.severity = .off) :
    checkRule rule setting m = none := by
  simp [checkRule, Setting.isEnabled, h]

theorem rule_eq_of_checkRule {rule : RuleName} {setting : Setting} {m : Message} {v : Violation}
    (h : checkRule rule setting m = some v) : v.rule = rule := by
  rw [checkRule] at h
  split at h
  · obtain ⟨f, _, rfl⟩ := Option.map_eq_some_iff.1 h
    rfl
  · cases h

namespace Violation

def isError (v : Violation) : Bool := decide (v.severity = .error)

/-- The violation on a terminal: mark, rule and message, and the suggestion on a line of its own. -/
def format (styled : Bool) (v : Violation) : String :=
  let mark := if v.isError then Terminal.bold .red "✗" else Terminal.bold .yellow "⚠"
  let rule := Terminal.plain (if v.isError then .red else .yellow) v.rule.key
  let head := mark.render styled ++ " " ++ rule.render styled ++ " " ++ v.message
  match v.suggestion with
  | none => head
  | some advice =>
    head ++ "\n  " ++ (Terminal.dim "→").render styled ++ " " ++ (Terminal.dim advice).render styled

end Violation

end CommitLint
