import CommitLint.Failure
import CommitLint.RuleSet
import CommitLint.Toml.Shown

/-!
# Entries of rules

A rule is configured by an array of its severity, its applicability and its value. The applicability
may be left out together with the value of a rule that takes none. The first thing that is wrong
with an entry is the one reported.
-/

namespace CommitLint.RuleEntry

open Toml (Value)

/-- The severity that a value stands for: a number or a name. -/
def severity? : Value → Option Severity
  | .integer n => Severity.ofLevel? n
  | .string s => Severity.ofName? s
  | _ => none

def severity (rule : RuleName) (v : Value) : Except ConfigError Severity :=
  match severity? v with
  | some s => .ok s
  | none => .error (.invalidSeverity rule.key v.shown)

/-- The applicability that a value stands for. -/
def applicability? : Value → Option Applicability
  | .string s => Applicability.ofName? s
  | _ => none

def applicability (rule : RuleName) : Option Value → Except ConfigError Applicability
  | none => .ok .always
  | some v =>
    match applicability? v with
    | some a => .ok a
    | none => .error (.invalidApplicability rule.key v.shown)

def listItem (rule : RuleName) : Value → Except ConfigError String
  | .string s => .ok s
  | v => .error (.invalidValue rule.key ("list items must be strings, found " ++ v.shown))

/-- The value in an entry, which must be of the shape that the rule takes. -/
def value (rule : RuleName) (v : Option Value) : Except ConfigError RuleValue :=
  match rule.valueKind, v with
  | .none, none => .ok .none
  | .none, some v => .error (.invalidValue rule.key ("takes no value, found " ++ v.shown))
  | _, none => .error (.missingValue rule.key)
  | .length, some (.integer n) =>
    if 0 ≤ n then .ok (.length n.toNat)
    else .error (.invalidValue rule.key ("length must be non-negative, found " ++ Int.repr n))
  | .length, some v => .error (.invalidValue rule.key ("expected an integer, found " ++ v.kindName))
  | .text, some (.string s) => .ok (.text s)
  | .text, some v => .error (.invalidValue rule.key ("expected a string, found " ++ v.kindName))
  | .list, some (.array items) => (items.mapM (listItem rule)).map .list
  | .list, some v => .error (.invalidValue rule.key ("expected a list, found " ++ v.kindName))

/-- The number of parts that an entry may have. -/
def maxParts : Nat := 3

/-- The setting that an entry stands for. -/
def setting (rule : RuleName) : Value → Except ConfigError Setting
  | .array [] => .error (.invalidValue rule.key "rule entry is empty")
  | .array (first :: rest) => do
    let s ← severity rule first
    let a ← applicability rule rest.head?
    let v ← value rule rest[1]?
    if rest.length + 1 > maxParts then
      .error (.invalidValue rule.key
        ("expected at most " ++ Nat.repr maxParts ++ " elements, found "
          ++ Nat.repr (rest.length + 1)))
    else .ok ⟨s, a, v⟩
  | v => .error (.invalidValue rule.key ("expected [severity, applicability, value], found "
    ++ v.kindName))

/-- The rule and the setting that an entry of a table stands for. -/
def ofTableEntry (entry : String × Value) : Except ConfigError RuleEntry :=
  match RuleName.ofKey? entry.1 with
  | none => .error (.unknownRule entry.1)
  | some rule => (setting rule entry.2).map fun s => (rule, s)

end RuleEntry

namespace RuleSet

def ofTable (table : Toml.Table) : Except ConfigError RuleSet :=
  (table.mapM RuleEntry.ofTableEntry).map ofList

end RuleSet

end CommitLint
