import CommitLint.Report
import Mathlib

/-!
# Verdicts

What makes a message break a rule, apart from the order in which a check looks at it: the rule must
apply to the message (`RuleName.AppliesTo`), and what it asks (`RuleName.Holds`) must not be as its
applicability wants it.

* `findingOf_eq_none_iff` — a rule whose value has its shape finds nothing exactly when it does not
  apply or is as asked;
* `rules_validate`, `rules_of_severity` — the rules in a report are those broken, in their order;
* `forall_severity_ne_iff` — no violation has a severity exactly when no rule of it is broken;
* `severity_ne_off_of_mem_validate` — a report has no violation of a rule that is off.
-/

namespace CommitLint

open Text

/-- Whether a condition is as an applicability asks. -/
def Applicability.Asks : Applicability → Prop → Prop
  | always, p => p
  | never, p => ¬ p

theorem Applicability.passes_iff (asked : Applicability) (b : Bool) :
    asked.passes b = true ↔ asked.Asks (b = true) := by
  cases asked <;> simp [passes, Asks]

/-- A check that ends in a verdict finds nothing exactly when its condition is as asked. -/
theorem ite_passes_eq_none_iff {asked : Applicability} {b : Bool} {p : Prop} (h : b = true ↔ p)
    (finding : Finding) :
    (if asked.passes b = true then none else some finding) = none ↔ asked.Asks p := by
  rw [← propext h, ← asked.passes_iff b]
  split
  · next passed => simp [passed]
  · next failed => simp [failed]

namespace RuleName

/-- Whether a rule has anything to say about a message. -/
def AppliesTo (rule : RuleName) (m : Message) : Prop :=
  match rule with
  | typeEnum => m.conventional.type ≠ ""
  | subjectFullStop => m.conventional.subject ≠ ""
  | bodyLeadingBlank | bodyMaxLineLength => m.body ≠ []
  | _ => True

/-- What a rule says of a message, with a value of its shape. -/
def Holds (rule : RuleName) (value : RuleValue) (m : Message) : Prop :=
  match rule, value with
  | headerMaxLength, .length max => m.header.length ≤ max ∨ max = Finding.maxLength
  | headerMinLength, .length min => min ≤ m.header.length
  | signedOffBy, .text marker => ∃ line ∈ m.body, startsWith line marker = true
  | typeEnum, .list allowed => m.conventional.type ∈ allowed
  | typeEmpty, _ => m.conventional.type = ""
  | subjectEmpty, _ => m.conventional.subject = ""
  | subjectFullStop, .text stop => endsWith m.conventional.subject stop = true
  | bodyLeadingBlank, _ => ∃ first ∈ m.body.head?, isBlank first = true
  | bodyMaxLineLength, .length max => ∀ line ∈ m.body, line.length ≤ max
  | _, _ => False

end RuleName

/-! ### The checks one by one -/

namespace Finding

variable {asked : Applicability}

theorem isWithin_iff (length min max : Nat) :
    isWithin length min max = true ↔ min ≤ length ∧ (length ≤ max ∨ max = maxLength) := by
  simp [isWithin]

theorem ofHeaderLength_eq_none_iff (header : String) (min max : Nat) :
    ofHeaderLength header min max asked = none ↔
      asked.Asks (min ≤ header.length ∧ (header.length ≤ max ∨ max = maxLength)) :=
  ite_passes_eq_none_iff (isWithin_iff _ _ _) _

theorem ofSignOff_eq_none_iff (body : List String) (marker : String) :
    ofSignOff body marker asked = none ↔
    asked.Asks (∃ line ∈ body, startsWith line marker = true) :=
  ite_passes_eq_none_iff (by simp) _

theorem ofTypeList_eq_none_iff (header : ConventionalHeader) (listed : List String) :
    ofTypeList header listed asked = none ↔
    (header.type ≠ "" → asked.Asks (header.type ∈ listed)) := by
  unfold ofTypeList
  split
  · next none => simp [none]
  · next typed =>
    rw [ite_passes_eq_none_iff decide_eq_true_iff]
    simp [typed]

theorem ofTypeEmpty_eq_none_iff (header : ConventionalHeader) :
    ofTypeEmpty header asked = none ↔ asked.Asks (header.type = "") :=
  ite_passes_eq_none_iff decide_eq_true_iff _

theorem ofSubjectEmpty_eq_none_iff (header : ConventionalHeader) :
    ofSubjectEmpty header asked = none ↔ asked.Asks (header.subject = "") :=
  ite_passes_eq_none_iff decide_eq_true_iff _

theorem ofFullStop_eq_none_iff (header : ConventionalHeader) (stop : String) :
    ofFullStop header stop asked = none ↔
      (header.subject ≠ "" → asked.Asks (endsWith header.subject stop = true)) := by
  unfold ofFullStop
  split
  · next none => simp [none]
  · next said =>
    rw [ite_passes_eq_none_iff Iff.rfl]
    simp [said]

theorem ofLeadingBlank_eq_none_iff (body : List String) :
    ofLeadingBlank body asked = none ↔
      (body ≠ [] → asked.Asks (∃ first ∈ body.head?, isBlank first = true)) := by
  cases body with
  | nil => simp [ofLeadingBlank]
  | cons first rest =>
    unfold ofLeadingBlank
    rw [ite_passes_eq_none_iff Iff.rfl]
    simp

theorem ofBodyLines_eq_none_iff (body : List String) (max : Nat) :
    ofBodyLines body max asked = none ↔
      (body ≠ [] → asked.Asks (∀ line ∈ body, line.length ≤ max)) := by
  unfold ofBodyLines
  split
  · next none => simp [none]
  · next written =>
    rw [ite_passes_eq_none_iff (decide_eq_true_iff.trans (longestLine_le_iff body max))]
    simp [written]

end Finding

/-! ### All checks -/

/-- **The verdict of a rule.** A rule whose value has its shape finds nothing wrong exactly when it
does not apply to the message, or what it says is as asked. -/
theorem findingOf_eq_none_iff {rule : RuleName} {setting : Setting} (m : Message)
    (shape : setting.value.kind = rule.valueKind) :
    findingOf rule setting m = none ↔
      (rule.AppliesTo m → setting.applicability.Asks (rule.Holds setting.value m)) := by
  obtain ⟨severity, asked, value⟩ := setting
  cases rule <;> cases value <;>
    simp only [RuleValue.kind, RuleName.valueKind, reduceCtorEq] at shape
  case headerMaxLength.length max =>
    simpa [findingOf, RuleName.AppliesTo, RuleName.Holds] using
      Finding.ofHeaderLength_eq_none_iff m.header 0 max
  case headerMinLength.length min =>
    simpa [findingOf, RuleName.AppliesTo, RuleName.Holds] using
      Finding.ofHeaderLength_eq_none_iff m.header min Finding.maxLength
  case signedOffBy.text marker =>
    simpa [findingOf, RuleName.AppliesTo, RuleName.Holds]
      using Finding.ofSignOff_eq_none_iff m.body marker
  case typeEnum.list allowed => exact Finding.ofTypeList_eq_none_iff m.conventional allowed
  case typeEmpty.none =>
    simpa [findingOf, RuleName.AppliesTo, RuleName.Holds]
      using Finding.ofTypeEmpty_eq_none_iff m.conventional
  case subjectEmpty.none =>
    simpa [findingOf, RuleName.AppliesTo, RuleName.Holds] using
      Finding.ofSubjectEmpty_eq_none_iff m.conventional
  case subjectFullStop.text stop => exact Finding.ofFullStop_eq_none_iff m.conventional stop
  case bodyLeadingBlank.none => exact Finding.ofLeadingBlank_eq_none_iff m.body
  case bodyMaxLineLength.length max => exact Finding.ofBodyLines_eq_none_iff m.body max

theorem checkRule_eq_none_iff {rule : RuleName} {setting : Setting} {m : Message} :
    checkRule rule setting m = none ↔
    setting.severity = .off ∨ findingOf rule setting m = none := by
  rw [checkRule, Setting.isEnabled]
  by_cases off : setting.severity = .off
  · simp [off]
  · simp [off]

/-- A rule that is not off is broken exactly when it applies and what it says is not as asked. -/
theorem isSome_checkRule_iff {rule : RuleName} {setting : Setting} (m : Message)
    (shape : setting.value.kind = rule.valueKind) (on : setting.severity ≠ .off) :
    (checkRule rule setting m).isSome = true ↔
      rule.AppliesTo m ∧ ¬ setting.applicability.Asks (rule.Holds setting.value m) := by
  rw [← Option.ne_none_iff_isSome, ne_eq, checkRule_eq_none_iff, findingOf_eq_none_iff m shape]
  simp [on]

theorem severity_of_checkRule {rule : RuleName} {setting : Setting} {m : Message} {v : Violation}
    (h : checkRule rule setting m = some v) :
    v.severity = setting.severity ∧ v.severity ≠ .off := by
  rw [checkRule] at h
  split at h
  · next enabled =>
    obtain ⟨finding, -, rfl⟩ := Option.map_eq_some_iff.1 h
    exact ⟨rfl, of_decide_eq_true enabled⟩
  · cases h

/-! ### Reports -/

/-- Rules that are off need not be left out beforehand. -/
theorem violations_validate (m : Message) (rules : RuleSet) :
    (validate m rules).violations = rules.entries.filterMap fun e => checkRule e.1 e.2 m := by
  rw [validate, RuleSet.enabled, List.filterMap_filter]
  apply congrArg (List.filterMap · rules.entries)
  funext e
  by_cases enabled : e.2.isEnabled = true
  · simp [enabled]
  · simp [enabled, checkRule]

theorem mem_validate_iff {m : Message} {rules : RuleSet} {v : Violation} :
    v ∈ (validate m rules).violations ↔ ∃ e ∈ rules.entries, checkRule e.1 e.2 m = some v := by
  rw [violations_validate, List.mem_filterMap]

theorem severity_ne_off_of_mem_validate {m : Message} {rules : RuleSet} {v : Violation}
    (h : v ∈ (validate m rules).violations) : v.severity ≠ .off := by
  obtain ⟨e, -, broken⟩ := mem_validate_iff.1 h
  exact (severity_of_checkRule broken).2

/-- The rules whose violations have a severity are the broken rules of that severity, in order. -/
theorem rules_of_severity (m : Message) (rules : RuleSet) (s : Severity) :
    ((validate m rules).violations.filter fun v => v.severity = s).map (·.rule) =
      (rules.entries.filter fun e => e.2.severity = s ∧
        (checkRule e.1 e.2 m).isSome = true).map Prod.fst := by
  rw [violations_validate]
  induction rules.entries with
  | nil => rfl
  | cons e rest ih =>
    cases checked : checkRule e.1 e.2 m with
    | none => simpa [checked] using ih
    | some v =>
      have rule := rule_eq_of_checkRule checked
      have severity := (severity_of_checkRule checked).1
      by_cases same : e.2.severity = s
      · simpa [checked, severity, same, rule] using ih
      · simpa [checked, severity, same] using ih

/-- The rules of a report are the broken ones, in the order of their declaration. -/
theorem rules_validate (m : Message) (rules : RuleSet) :
    (validate m rules).rules =
      (rules.entries.filter fun e => (checkRule e.1 e.2 m).isSome).map Prod.fst := by
  rw [Report.rules, violations_validate]
  induction rules.entries with
  | nil => rfl
  | cons e rest ih =>
    cases checked : checkRule e.1 e.2 m with
    | none => simpa [checked] using ih
    | some v => simpa [checked, rule_eq_of_checkRule checked] using ih

/-- No violation has a severity exactly when no rule of that severity finds anything wrong. -/
theorem forall_severity_ne_iff {m : Message} {rules : RuleSet} {s : Severity} (on : s ≠ .off) :
    (∀ v ∈ (validate m rules).violations, v.severity ≠ s) ↔
      ∀ e ∈ rules.entries, e.2.severity = s → findingOf e.1 e.2 m = none := by
  constructor
  · intro h e mem same
    cases checked : checkRule e.1 e.2 m with
    | none =>
      rcases checkRule_eq_none_iff.1 checked with off | none
      · exact absurd (same.symm.trans off) on
      · exact none
    | some v =>
      exact absurd ((severity_of_checkRule checked).1.trans same)
        (h v (mem_validate_iff.2 ⟨e, mem, checked⟩))
  · intro h v mem same
    obtain ⟨e, entry, checked⟩ := mem_validate_iff.1 mem
    have none := h e entry ((severity_of_checkRule checked).1.symm.trans same)
    rw [checkRule_eq_none_iff.2 (Or.inr none)] at checked
    cases checked

end CommitLint
