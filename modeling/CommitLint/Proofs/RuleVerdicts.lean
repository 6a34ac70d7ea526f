import CommitLint.Proofs.EffectiveRules
import Mathlib

/-!
# Verdicts of the rules

When exactly a rule is broken: it must be on, it must accept the value it is set to, it must have
something to say about the message, and its condition must not be as asked. The condition of each
rule is stated here in plain terms (`RuleName.Condition`). From this it follows that of the two ways
to ask for a condition one is always broken and the other is not, unless the rule has nothing to
say.

* `RuleName.condition_iff_holds` — the condition of a rule in plain terms;
* `findingOf_ne_none_iff` — when a rule finds something, whatever value it is set to;
* `verdict_exact` — when a rule is broken;
* `stray_value_evaluated` — a rule that takes no value is broken though it is set to one.
-/

namespace CommitLint

open Text

namespace RuleName

/-! ### Values and conditions -/

/-- Whether a rule looks at a message when it is set to a value. A rule that takes no value looks at
none. -/
def Accepts (rule : RuleName) (value : RuleValue) : Prop :=
  rule.valueKind = .none ∨ value.kind = rule.valueKind

instance (rule : RuleName) (value : RuleValue) : Decidable (rule.Accepts value) :=
  inferInstanceAs (Decidable (_ ∨ _))

/-- Whether a value is given to a rule that takes none. -/
def IsStray (rule : RuleName) (value : RuleValue) : Prop :=
  rule.valueKind = .none ∧ value.kind ≠ .none

/-- The condition of a rule. It is false of values that the rule does not accept. -/
def Condition (rule : RuleName) (value : RuleValue) (m : Message) : Prop :=
  match rule, value with
  | headerMaxLength, .length n => m.header.length ≤ n
  | headerMinLength, .length n => n ≤ m.header.length
  | signedOffBy, .text marker => ∃ line ∈ m.body, marker.toList <+: line.toList
  | typeEnum, .list listed => m.conventional.type ∈ listed
  | typeEmpty, _ => m.conventional.type = ""
  | subjectEmpty, _ => m.conventional.subject = ""
  | subjectFullStop, .text stop => stop.toList <:+ m.conventional.subject.toList
  | bodyLeadingBlank, _ => ∃ first ∈ m.body.head?, ∀ c ∈ first.toList, isSpace c = true
  | bodyMaxLineLength, .length n => ∀ line ∈ m.body, line.length ≤ n
  | _, _ => False

theorem IsStray.kind_ne {rule : RuleName} {value : RuleValue} (stray : rule.IsStray value) :
    value.kind ≠ rule.valueKind := by
  rw [stray.1]
  exact stray.2

/-- A rule accepts the values of its shape, and those that are stray. -/
theorem accepts_iff (rule : RuleName) (value : RuleValue) :
    rule.Accepts value ↔ value.kind = rule.valueKind ∨ rule.IsStray value := by
  constructor
  · rintro (none | shape)
    · by_cases empty : value.kind = .none
      · exact .inl (empty.trans none.symm)
      · exact .inr ⟨none, empty⟩
    · exact .inl shape
  · rintro (shape | stray)
    · exact .inr shape
    · exact .inl stray.1

variable {m : Message}

/-- The largest length bounds every header, so that the one upper bound that is treated as none is
like the others. -/
theorem condition_iff_holds (rule : RuleName) (value : RuleValue)
    (short : m.header.length ≤ Finding.maxLength) :
    rule.Condition value m ↔ rule.Holds value m := by
  cases rule
  case headerMaxLength =>
    cases value with
    | length max =>
      show m.header.length ≤ max ↔ m.header.length ≤ max ∨ max = Finding.maxLength
      rw [or_iff_left_of_imp]
      intro largest
      rwa [largest]
    | _ => exact Iff.rfl
  case signedOffBy =>
    cases value with
    | text marker => simp only [Condition, Holds, startsWith, List.isPrefixOf_iff_prefix]
    | _ => exact Iff.rfl
  case subjectFullStop =>
    cases value with
    | text stop => simp only [Condition, Holds, endsWith, List.isSuffixOf_iff_suffix]
    | _ => exact Iff.rfl
  case bodyLeadingBlank => simp only [Condition, Holds, isBlank_iff]
  all_goals cases value <;> exact Iff.rfl

theorem holds_of_valueKind_none {rule : RuleName} (none : rule.valueKind = .none)
    (value : RuleValue) :
    rule.Holds value m ↔ rule.Holds .none m := by
  cases rule
  case typeEmpty | subjectEmpty | bodyLeadingBlank => exact Iff.rfl
  all_goals cases none

end RuleName

/-! ### Findings -/

section

variable {rule : RuleName} {setting : Setting}

/-- A rule that takes no value finds what it would find without one. -/
theorem findingOf_of_valueKind_none (none : rule.valueKind = .none) (setting : Setting)
    (m : Message) :
    findingOf rule setting m = findingOf rule { setting with value := .none } m := by
  cases rule
  case typeEmpty | subjectEmpty | bodyLeadingBlank => rfl
  all_goals cases none

/-- A rule that does not accept its value finds nothing. -/
theorem findingOf_of_not_accepts (other : ¬ rule.Accepts setting.value) (m : Message) :
    findingOf rule setting m = none := by
  rw [RuleName.Accepts, not_or] at other
  rw [findingOf_eq_join, (evaluate?_eq_none_iff rule setting m).2 other]
  rfl

/-- When a rule that accepts its value finds nothing. -/
theorem findingOf_eq_none_iff_of_accepts (accepts : rule.Accepts setting.value) (m : Message) :
    findingOf rule setting m = none ↔
      (rule.AppliesTo m → setting.applicability.Asks (rule.Holds setting.value m)) := by
  rcases accepts with none | shape
  -- Without a value the rule would find the same.
  · rw [findingOf_of_valueKind_none none, propext
      (RuleName.holds_of_valueKind_none none setting.value)]
    exact findingOf_eq_none_iff m none.symm
  · exact findingOf_eq_none_iff m shape

/-- When a rule finds something, whatever value it is set to. -/
theorem findingOf_ne_none_iff (rule : RuleName) (setting : Setting) (m : Message) :
    findingOf rule setting m ≠ none ↔ rule.Accepts setting.value ∧ rule.AppliesTo m ∧
      ¬ setting.applicability.Asks (rule.Holds setting.value m) := by
  by_cases accepts : rule.Accepts setting.value
  · rw [ne_eq, findingOf_eq_none_iff_of_accepts accepts, Classical.not_imp]
    exact (and_iff_right accepts).symm
  · exact iff_of_false (not_not_intro (findingOf_of_not_accepts accepts m)) fun found =>
      accepts found.1

/-- When a rule is broken. -/
theorem isSome_checkRule_iff_accepts (rule : RuleName) (setting : Setting) (m : Message) :
    (checkRule rule setting m).isSome = true ↔
    setting.severity ≠ .off ∧ rule.Accepts setting.value ∧
      rule.AppliesTo m ∧ ¬ setting.applicability.Asks (rule.Holds setting.value m) := by
  rw [← Option.ne_none_iff_isSome, ne_eq, checkRule_eq_none_iff, not_or, ← findingOf_ne_none_iff]

end

/-! ### Verdicts -/

/-- **When a rule is broken.** A rule finds a violation in a message exactly when it is not off,
accepts the value it is set to, applies to the message, and its condition is false where it is
always asked for or true where it must never be; no header is longer than the largest length. That
the value has the shape of the rule says the same as that the rule accepts it, exactly unless the
rule takes no value, is set to one, and is broken all the same. The violation is of that rule and
has its severity. So of the two ways to ask for a condition exactly one is broken, by every message
that the rule applies to, when the rule is on and accepts its value; and neither is broken by any
other message. -/
theorem verdict_exact (rule : RuleName) (setting : Setting) (m : Message) :
    let broken := fun asked =>
      (checkRule rule { setting with applicability := asked } m).isSome = true
    (m.header.length ≤ Finding.maxLength →
      ((checkRule rule setting m).isSome = true ↔
        setting.severity ≠ .off ∧ rule.Accepts setting.value ∧ rule.AppliesTo m ∧
          ¬ setting.applicability.Asks (rule.Condition setting.value m)) ∧
      (((checkRule rule setting m).isSome = true ↔
        setting.severity ≠ .off ∧ setting.value.kind = rule.valueKind ∧ rule.AppliesTo m ∧
          ¬ setting.applicability.Asks (rule.Condition setting.value m)) ↔
        ¬ (rule.IsStray setting.value ∧ (checkRule rule setting m).isSome = true))) ∧
    (∀ v, checkRule rule setting m = some v → v.rule = rule ∧ v.severity = setting.severity) ∧
    (setting.severity ≠ .off → rule.Accepts setting.value → rule.AppliesTo m →
      (broken .always ↔ ¬ broken .never)) ∧
    (¬ rule.AppliesTo m → ¬ broken .always ∧ ¬ broken .never) := by
  intro broken
  have verdict (asked : Applicability) : broken asked ↔ _ :=
    isSome_checkRule_iff_accepts rule { setting with applicability := asked } m
  refine ⟨fun short => ?_, fun v found => ?_, fun on accepts applies => ?_, fun apart => ?_⟩
  · have exact := isSome_checkRule_iff_accepts rule setting m
    rw [← RuleName.condition_iff_holds rule setting.value short] at exact
    refine ⟨exact, ?_⟩
    rw [exact, RuleName.accepts_iff]
    by_cases stray : rule.IsStray setting.value
    · simp only [stray, stray.kind_ne, or_true, false_and, and_false, true_and, iff_false]
    · simp only [stray, or_false, false_and, not_false_eq_true]
  · exact ⟨rule_eq_of_checkRule found, (severity_of_checkRule found).1⟩
  · rw [verdict, verdict]
    simp [on, accepts, applies, Applicability.Asks]
  · rw [verdict, verdict]
    simp [apart]

/-- A header of five characters, each of two bytes, is not longer than five, and breaks the rule
only where it must be. -/
theorem verdict_exact_accents :
    let m := Message.parse "ééééé"
    let asking := fun asked : Applicability =>
      checkRule .headerMaxLength ⟨.warning, asked, .length 5⟩ m
    asking .always = none ∧ ∃ v, asking .never = some v ∧ v.rule = .headerMaxLength ∧
    v.severity = .warning := by
  intro m asking
  have short : m.header.length ≤ Finding.maxLength := by decide +kernel
  have five : RuleName.headerMaxLength.Condition (.length 5) m := show m.header.length ≤ 5 by
    decide +kernel
  obtain ⟨told, carried, one, -⟩ := verdict_exact .headerMaxLength ⟨.warning, .never, .length 5⟩ m
  have fails : (asking .never).isSome = true :=
    (told short).1.2 ⟨by decide, by decide, trivial, not_not_intro five⟩
  have passes : ¬ (asking .always).isSome = true := fun broken =>
    (one (by decide) (by decide) trivial).1 broken fails
  obtain ⟨v, found⟩ := Option.isSome_iff_exists.1 fails
  exact ⟨by simpa using passes, v, found, carried v found⟩

/-- A rule that takes no value, and is set to one, is not passed over, although the value has not
its shape. -/
theorem stray_value_evaluated :
    let setting : Setting := ⟨.error, .never, .length 5⟩
    let m := Message.parse "no type here"
    setting.value.kind ≠ RuleName.typeEmpty.valueKind ∧
    (checkRule .typeEmpty setting m).isSome = true ∧
    ¬ ((checkRule .typeEmpty setting m).isSome = true ↔
      setting.severity ≠ .off ∧ setting.value.kind = RuleName.typeEmpty.valueKind ∧
      RuleName.typeEmpty.AppliesTo m ∧
        ¬ setting.applicability.Asks (RuleName.typeEmpty.Condition setting.value m)) := by
  intro setting m
  have shapeless : setting.value.kind ≠ RuleName.typeEmpty.valueKind := by decide
  have broken : (checkRule .typeEmpty setting m).isSome = true := by decide +kernel
  exact ⟨shapeless, broken, fun verdict => shapeless (verdict.1 broken).2.1⟩

end CommitLint
