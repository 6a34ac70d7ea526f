import CommitLint.Text.LowerCase
import CommitLint.Text.Quoted

/-!
# Rules and their settings

A rule is one of nine named checks. Its setting says how strongly it is enforced, whether its
condition must hold or must not, and the value the condition speaks of.
-/

namespace CommitLint

/-! ### Severity -/

/-- How strongly a rule is enforced. -/
inductive Severity
  /-- The rule is never evaluated. -/
  | off
  /-- A violation is reported and does not fail the check. -/
  | warning
  /-- A violation fails the check. -/
  | error
  deriving DecidableEq, Repr

namespace Severity

def name : Severity → String
  | off => "off"
  | warning => "warning"
  | error => "error"

def level : Severity → Nat
  | off => 0
  | warning => 1
  | error => 2

def ofLevel? : Int → Option Severity
  | 0 => some off
  | 1 => some warning
  | 2 => some error
  | _ => none

/-- The severity a text names, by word or number and in any mix of cases. -/
def ofName? (s : String) : Option Severity :=
  let key := Text.lowerCase s
  if key = "off" ∨ key = "0" then some off
  else if key = "warning" ∨ key = "warn" ∨ key = "1" then some warning
  else if key = "error" ∨ key = "2" then some error
  else none

theorem ofLevel?_level (s : Severity) : ofLevel? s.level = some s := by cases s <;> rfl

theorem ofName?_name (s : Severity) : ofName? s.name = some s := by cases s <;> decide

end Severity

/-! ### Applicability -/

/-- Whether a rule's condition must hold or must not. -/
inductive Applicability
  /-- The condition must hold. -/
  | always
  /-- The condition must not hold. -/
  | never
  deriving DecidableEq, Repr

namespace Applicability

def name : Applicability → String
  | always => "always"
  | never => "never"

def ofName? (s : String) : Option Applicability :=
  if s = "always" then some always else if s = "never" then some never else none

/-- Whether a condition that holds, or does not, is as asked. -/
def passes : Applicability → Bool → Bool
  | always, holds => holds
  | never, holds => !holds

theorem ofName?_name (a : Applicability) : ofName? a.name = some a := by cases a <;> decide

end Applicability

/-! ### Names -/

/-- The shape of the value that a rule takes. -/
inductive ValueKind
  /-- No value. -/
  | none
  /-- A number of characters. -/
  | length
  /-- A text. -/
  | text
  /-- A list of texts. -/
  | list
  deriving DecidableEq, Repr

/-- The rules there are. -/
inductive RuleName
  /-- The header has at most so many characters. -/
  | headerMaxLength
  /-- The header has at least so many characters. -/
  | headerMinLength
  /-- Some body line starts with the marker. -/
  | signedOffBy
  /-- The type is one of those listed. -/
  | typeEnum
  /-- The type is empty. -/
  | typeEmpty
  /-- The subject is empty. -/
  | subjectEmpty
  /-- The subject ends with the given text. -/
  | subjectFullStop
  /-- The body starts with a blank line. -/
  | bodyLeadingBlank
  /-- No body line has more than so many characters. -/
  | bodyMaxLineLength
  deriving DecidableEq, Repr

namespace RuleName

/-- The key of a rule in a configuration. -/
def key : RuleName → String
  | headerMaxLength => "header-max-length"
  | headerMinLength => "header-min-length"
  | signedOffBy => "signed-off-by"
  | typeEnum => "type-enum"
  | typeEmpty => "type-empty"
  | subjectEmpty => "subject-empty"
  | subjectFullStop => "subject-full-stop"
  | bodyLeadingBlank => "body-leading-blank"
  | bodyMaxLineLength => "body-max-line-length"

/-- The shape of the value that the rule takes. -/
def valueKind : RuleName → ValueKind
  | headerMaxLength | headerMinLength | bodyMaxLineLength => .length
  | signedOffBy | subjectFullStop => .text
  | typeEnum => .list
  | typeEmpty | subjectEmpty | bodyLeadingBlank => .none

def all : List RuleName :=
  [headerMaxLength, headerMinLength, signedOffBy, typeEnum, typeEmpty, subjectEmpty,
    subjectFullStop,
   bodyLeadingBlank, bodyMaxLineLength]

def ofKey? (s : String) : Option RuleName := all.find? fun rule => rule.key = s

theorem mem_all (rule : RuleName) : rule ∈ all := by cases rule <;> decide

theorem ofKey?_key (rule : RuleName) : ofKey? rule.key = some rule := by cases rule <;> decide

theorem key_injective {r s : RuleName} (h : r.key = s.key) : r = s := by
  have := ofKey?_key r
  rw [h, ofKey?_key s] at this
  exact (Option.some.inj this).symm

theorem ofKey?_eq_some_iff {s : String} {rule : RuleName} :
    ofKey? s = some rule ↔ s = rule.key := by
  constructor
  · intro h
    have := List.find?_some h
    simpa using (of_decide_eq_true this).symm
  · rintro rfl
    exact ofKey?_key rule

end RuleName

/-! ### Values and settings -/

/-- The value that a rule's condition speaks of. -/
inductive RuleValue
  /-- No value. -/
  | none
  /-- A number of characters. -/
  | length (n : Nat)
  /-- A text. -/
  | text (s : String)
  /-- A list of texts. -/
  | list (items : List String)
  deriving DecidableEq, Repr

namespace RuleValue

def kind : RuleValue → ValueKind
  | none => .none
  | length _ => .length
  | text _ => .text
  | list _ => .list

/-- The number of characters, if the value is one. -/
def length? : RuleValue → Option Nat
  | length n => some n
  | _ => Option.none

def text? : RuleValue → Option String
  | text s => some s
  | _ => Option.none

def list? : RuleValue → Option (List String)
  | list items => some items
  | _ => Option.none

/-- A value as it is listed: nothing, decimal digits, or quoted texts. -/
def shown : RuleValue → String
  | none => ""
  | length n => Nat.repr n
  | text s => Text.quoted s
  | list items => Text.quotedList items

end RuleValue

/-- How a rule is set. -/
structure Setting where
  /-- How strongly the rule is enforced. -/
  severity : Severity
  /-- Whether its condition must hold or must not. -/
  applicability : Applicability
  /-- The value its condition speaks of. -/
  value : RuleValue
  deriving DecidableEq, Repr

def Setting.isEnabled (setting : Setting) : Bool := decide (setting.severity ≠ .off)

end CommitLint
