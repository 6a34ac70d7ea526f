import CommitLint.Proofs.CheckContract
import CommitLint.Proofs.Declarations
import Mathlib

/-!
# Reports and rules

Each rule of a set is evaluated by itself. A report has what the rules find, one after the other in
the order of their declaration, and what one rule finds does not depend on the others.

* `violations_eq_filterMap` — a report rule by rule;
* `filter_violations_eq_toList` — what a report has of one rule;
* `report_faithful` — the report of declared rules;
* `validate_local` — rules that are declared once more, switched off, or declared in another order.
-/

namespace CommitLint

/-! ### What a rule of a set finds -/

/-- The violation of a rule as it is set, if it is set and finds anything wrong. -/
def RuleSet.violation? (rules : RuleSet) (m : Message) (rule : RuleName) : Option Violation :=
  (rules.get? rule).bind fun setting => checkRule rule setting m

section

variable {m : Message} {rules others : RuleSet} {rule : RuleName} {v : Violation}

theorem rule_eq_of_violation? (found : rules.violation? m rule = some v) : v.rule = rule := by
  obtain ⟨setting, -, broken⟩ := Option.bind_eq_some_iff.1 found
  exact rule_eq_of_checkRule broken

theorem violation?_of_not_mem (undeclared : rule ∉ rules.names) :
    rules.violation? m rule = none := by
  rw [RuleSet.violation?, Option.bind_eq_none_iff]
  intro setting found
  exact absurd (RuleSet.mem_names_iff.2 ⟨setting, found⟩) undeclared

/-- A report lists what the rules find, in the order of the rules. -/
theorem violations_eq_filterMap (m : Message) (rules : RuleSet) :
    (validate m rules).violations = rules.names.filterMap (rules.violation? m) := by
  rw [violations_validate, RuleSet.names, List.filterMap_map]
  apply List.filterMap_congr
  intro e mem
  have found : rules.get? e.1 = some e.2 := get?_eq_some_iff.2 mem
  simp [RuleSet.violation?, found]

/-- Of some rules the violations are found by looking at the names alone. -/
theorem filter_filterMap_violation? (p : RuleName → Bool) (names : List RuleName) :
    (names.filterMap (rules.violation? m)).filter (fun v => p v.rule) =
      (names.filter p).filterMap (rules.violation? m) := by
  rw [List.filter_filterMap, List.filterMap_filter]
  apply List.filterMap_congr
  intro rule _
  cases found : rules.violation? m rule with
  | none => simp
  | some v => simp [Option.filter, rule_eq_of_violation? found]

/-- A report has of a rule what this rule finds. -/
theorem filter_violations_eq_toList (m : Message) (rules : RuleSet) (rule : RuleName) :
    (validate m rules).violations.filter (fun v => v.rule = rule) =
      (rules.violation? m rule).toList := by
  rw [violations_eq_filterMap, filter_filterMap_violation? fun r => r = rule]
  by_cases declared : rule ∈ rules.names
  · have unique : rules.names.Nodup := rules.nodup
    have once : rules.names.filter (fun r => r = rule) = [rule] := by
      rw [List.filter_eq, List.count_eq_one_of_mem unique declared]
      rfl
    rw [once]
    cases found : rules.violation? m rule <;> simp [found]
  · have never : rules.names.filter (fun r => r = rule) = [] := by
      rw [List.filter_eq_nil_iff]
      rintro r mem same
      exact declared (of_decide_eq_true same ▸ mem)
    rw [never, violation?_of_not_mem declared]
    rfl

theorem mem_violations_iff :
    v ∈ (validate m rules).violations ↔ rules.violation? m v.rule = some v := by
  have mem : v ∈ (validate m rules).violations.filter (fun w => w.rule = v.rule) ↔
      v ∈ (validate m rules).violations := by
    simp
  rw [← mem, filter_violations_eq_toList, Option.mem_toList]

/-- The first violation of a rule in a report is what this rule finds. -/
theorem find?_violations (m : Message) (rules : RuleSet) (rule : RuleName) :
    (validate m rules).violations.find? (fun v => v.rule = rule) = rules.violation? m rule := by
  rw [← List.head?_filter, filter_violations_eq_toList]
  cases rules.violation? m rule <;> rfl

theorem sublist_rules_validate (m : Message) (rules : RuleSet) :
    (validate m rules).rules.Sublist rules.names := by
  rw [rules_validate]
  exact List.filter_sublist.map _

theorem mem_rules_validate_iff :
    rule ∈ (validate m rules).rules ↔ ∃ v, rules.violation? m rule = some v := by
  rw [Report.rules, List.mem_map]
  constructor
  · rintro ⟨v, mem, rfl⟩
    exact ⟨v, mem_violations_iff.1 mem⟩
  · rintro ⟨v, found⟩
    obtain rfl := rule_eq_of_violation? found
    exact ⟨v, mem_violations_iff.2 found, rfl⟩

/-- Reports of one message differ in nothing but their violations. -/
theorem validate_congr (same : (validate m rules).violations = (validate m others).violations) :
    validate m rules = validate m others := by
  have parts : ∀ rules, validate m rules = ⟨none, m.header, false, (validate m rules).violations⟩ :=
    fun _ => rfl
  rw [parts rules, parts others, same]

end

/-! ### The report of declared rules -/

/-- **The report of declared rules** is about the header of the message. The rules stand in the
order in which they were declared first, with the settings that they were given last, and the report
names some of them in this order, none of them twice. Each violation has the severity of its rule,
which is not off. What the report has of a rule is what a check of this rule as it is set gives, and
nothing when it gives nothing. -/
theorem report_faithful (entries : List RuleEntry) (m : Message) :
    let rules := RuleSet.ofList entries
    let report := validate m rules
    (report.ignored = false ∧ report.header = m.header ∧ report.commitSha = none) ∧
    (rules.names = (entries.map Prod.fst).eraseDups ∧
      ∀ rule, rules.get? rule = (entries.reverse.find? fun e => e.1 = rule).map Prod.snd) ∧
    (report.rules.Sublist rules.names ∧ report.rules.Nodup) ∧
    (∀ v ∈ report.violations, ∃ setting, rules.get? v.rule = some setting ∧
      v.severity = setting.severity ∧ v.severity ≠ .off) ∧
    (∀ rule setting, rules.get? rule = some setting →
      (rule ∈ report.rules ↔ ∃ v, checkRule rule setting m = some v) ∧
      report.violations.filter (fun v => v.rule = rule) = (checkRule rule setting m).toList) := by
  intro rules report
  have sublist : report.rules.Sublist rules.names := sublist_rules_validate m rules
  have set : ∀ rule setting, rules.get? rule = some setting →
      rules.violation? m rule = checkRule rule setting m := by
    intro rule setting found
    rw [RuleSet.violation?, found, Option.bind_some]
  refine ⟨⟨rfl, rfl, rfl⟩, ⟨RuleSet.names_ofList entries, RuleSet.get?_ofList entries⟩,
    ⟨sublist, sublist.nodup rules.nodup⟩, ?_, ?_⟩
  · intro v mem
    obtain ⟨setting, found, broken⟩ := Option.bind_eq_some_iff.1 (mem_violations_iff.1 mem)
    exact ⟨setting, found, severity_of_checkRule broken⟩
  · intro rule setting found
    rw [mem_rules_validate_iff, filter_violations_eq_toList, set rule setting found]
    exact ⟨Iff.rfl, rfl⟩

/-! ### Rules that are declared once more -/

section

variable {m : Message} {entries : List RuleEntry} {rule : RuleName} {setting : Setting}

theorem violation?_override (other : RuleName) :
    (RuleSet.ofList (entries ++ [(rule, setting)])).violation? m other =
      if other = rule then checkRule rule setting m
        else (RuleSet.ofList entries).violation? m other := by
  rw [RuleSet.violation?, RuleSet.ofList_concat, RuleSet.get?_put]
  by_cases same : other = rule
  · simp [same]
  · simp [same, RuleSet.violation?]

/-- A rule that is not declared finds nothing, so that its name may be added to those of the
others. -/
theorem violations_eq_filterMap_override (rule : RuleName) (setting : Setting) :
    (validate m (.ofList entries)).violations =
      (RuleSet.ofList (entries ++ [(rule, setting)])).names.filterMap
        ((RuleSet.ofList entries).violation? m) := by
  rw [violations_eq_filterMap, RuleSet.ofList_concat, RuleSet.names_put]
  split
  · rfl
  · next new =>
    have none : (RuleSet.ofList entries).violation? m rule = none := violation?_of_not_mem new
    rw [List.filterMap_append]
    simp [none]

/-- Other rules find the same as before. -/
theorem filter_violations_override (m : Message) (entries : List RuleEntry) (rule : RuleName)
    (setting : Setting) :
    (validate m (.ofList (entries ++ [(rule, setting)]))).violations.filter
      (fun v => v.rule ≠ rule) =
      (validate m (.ofList entries)).violations.filter fun v => v.rule ≠ rule := by
  rw [violations_eq_filterMap, violations_eq_filterMap_override rule setting,
    filter_filterMap_violation? fun r => r ≠ rule, filter_filterMap_violation? fun r => r ≠ rule]
  apply List.filterMap_congr
  intro other mem
  have different : other ≠ rule := of_decide_eq_true (List.mem_filter.1 mem).2
  rw [violation?_override, if_neg different]

theorem filterMap_append_cons {α β : Type} (f : α → Option β) (front : List α) (a : α)
    (back : List α) :
    (front ++ a :: back).filterMap f = front.filterMap f ++ (f a).toList ++ back.filterMap f := by
  rw [List.filterMap_append, List.filterMap_cons, List.append_assoc]
  cases f a <;> rfl

/-- The violation of a rule stands where the rule was declared first, whatever its setting. -/
theorem exists_violations_override (m : Message) (entries : List RuleEntry) (rule : RuleName)
    (setting : Setting) :
    ∃ front back,
      (validate m (.ofList entries)).violations =
        front ++ ((RuleSet.ofList entries).violation? m rule).toList ++ back ∧
      (validate m (.ofList (entries ++ [(rule, setting)]))).violations =
        front ++ (checkRule rule setting m).toList ++ back ∧
      (∀ v ∈ front, v.rule ∈ RuleSet.before entries rule) ∧
      (∀ v ∈ back, v.rule ≠ rule ∧ v.rule ∉ RuleSet.before entries rule) ∧
      (rule ∉ entries.map Prod.fst → back = []) := by
  obtain ⟨after, names, later⟩ := RuleSet.exists_names_override entries rule setting
  let found := (RuleSet.ofList entries).violation? m
  let found' := (RuleSet.ofList (entries ++ [(rule, setting)])).violation? m
  have same : ∀ names : List RuleName, rule ∉ names →
      names.filterMap found' = names.filterMap found := by
    intro names absent
    apply List.filterMap_congr
    intro other mem
    have different : other ≠ rule := fun eq => absent (eq ▸ mem)
    exact (violation?_override other).trans (if_neg different)
  have own : found' rule = checkRule rule setting m := (violation?_override rule).trans (if_pos rfl)
  refine ⟨(RuleSet.before entries rule).eraseDups.filterMap found, after.filterMap found, ?_,
    ?_, ?_, ?_, ?_⟩
  · rw [violations_eq_filterMap_override rule setting, names, filterMap_append_cons]
  · rw [violations_eq_filterMap, names, filterMap_append_cons, ← own]
    have absentBefore : rule ∉ (RuleSet.before entries rule).eraseDups := by
      rw [List.mem_eraseDups]
      exact RuleSet.not_mem_before entries rule
    have absentAfter : rule ∉ after := fun mem => (later rule mem).1 rfl
    show List.filterMap found' _ ++ _ ++ List.filterMap found' _ = _
    rw [same _ absentBefore, same _ absentAfter]
  · intro v mem
    obtain ⟨other, inside, eq⟩ := List.mem_filterMap.1 mem
    rw [rule_eq_of_violation? eq]
    exact List.mem_eraseDups.1 inside
  · intro v mem
    obtain ⟨other, inside, eq⟩ := List.mem_filterMap.1 mem
    rw [rule_eq_of_violation? eq]
    exact later other inside
  · intro new
    -- All other rules were declared before.
    have none : after = [] := by
      rw [List.eq_nil_iff_forall_not_mem]
      intro other mem
      obtain ⟨different, unseen⟩ := later other mem
      have declared : other ∈ (RuleSet.ofList (entries ++ [(rule, setting)])).names := by
        rw [names]
        exact List.mem_append_right _ (List.mem_cons_of_mem _ mem)
      rw [RuleSet.before_of_not_mem new] at unseen
      rw [RuleSet.names_ofList, List.mem_eraseDups, List.map_append, List.mem_append] at declared
      rcases declared with old | last
      · exact unseen old
      · exact different (List.mem_singleton.1 last)
    rw [none]
    rfl

/-- A rule that is switched off finds nothing, as if it were not declared. -/
theorem validate_off (m : Message) (entries : List RuleEntry) {rule : RuleName} {setting : Setting}
    (off : setting.severity = .off) :
    validate m (.ofList (entries ++ [(rule, setting)])) =
        { validate m (.ofList entries) with
          violations := (validate m (.ofList entries)).violations.filter fun v => v.rule ≠ rule } ∧
      validate m (.ofList (entries ++ [(rule, setting)])) =
        validate m (.ofList (entries.filter fun e => e.1 ≠ rule)) := by
  have silent : ∀ v ∈ (validate m (.ofList (entries ++ [(rule, setting)]))).violations,
      v.rule ≠ rule := by
    rintro v mem same
    have found := mem_violations_iff.1 mem
    rw [violation?_override, if_pos same, checkRule_off _ _ _ off] at found
    cases found
  have fewer : (validate m (.ofList (entries ++ [(rule, setting)]))).violations =
      (validate m (.ofList entries)).violations.filter fun v => v.rule ≠ rule := by
    rw [← filter_violations_override m entries rule setting, List.filter_eq_self.2]
    exact fun v mem => decide_eq_true (silent v mem)
  constructor
  · rw [← fewer]
    rfl
  · apply validate_congr
    rw [fewer, violations_eq_filterMap, violations_eq_filterMap,
      filter_filterMap_violation? fun r => r ≠ rule,
      RuleSet.names_ofList_filter]
    apply List.filterMap_congr
    intro other mem
    have different : other ≠ rule := of_decide_eq_true (List.mem_filter.1 mem).2
    rw [RuleSet.violation?, RuleSet.violation?, RuleSet.get?_ofList_filter entries different]

/-- A report with fewer violations is not rejected where the other is not. -/
theorem isRejected_of_sublist {r s : Report} (fewer : r.violations.Sublist s.violations)
    {strict : Bool}
    (rejected : isRejected strict [r] = true) : isRejected strict [s] = true := by
  have errors : totalErrors [r] ≤ totalErrors [s] :=
    Nat.add_le_add_right (fewer.filter _).length_le 0
  have warnings : totalWarnings [r] ≤ totalWarnings [s] :=
    Nat.add_le_add_right (fewer.filter _).length_le 0
  rw [isRejected_iff] at rejected ⊢
  rcases rejected with failing | ⟨strictly, warned⟩
  · exact .inl (failing.trans_le errors)
  · exact .inr ⟨strictly, warned.trans_le warnings⟩

end

/-! ### Rules in another order -/

/-- Rules that are declared in another order find the same, in this order. -/
theorem violations_of_perm (m : Message) {entries others : List RuleEntry}
    (perm : entries.Perm others)
    (nodup : (entries.map Prod.fst).Nodup) :
    (validate m (.ofList others)).violations.Perm (validate m (.ofList entries)).violations ∧
    (validate m (.ofList others)).violations =
      (others.map Prod.fst).filterMap fun rule =>
        (validate m (.ofList entries)).violations.find? fun v => v.rule = rule := by
  have nodup' : (others.map Prod.fst).Nodup := (perm.map Prod.fst).nodup_iff.1 nodup
  constructor
  · rw [violations_validate, violations_validate, entries_ofList nodup, entries_ofList nodup']
    exact perm.symm.filterMap _
  · have names : (RuleSet.ofList others).names = others.map Prod.fst := by
      rw [RuleSet.names, entries_ofList nodup']
    have same : ∀ rule, (RuleSet.ofList others).get? rule = (RuleSet.ofList entries).get? rule := by
      intro rule
      apply Option.ext
      intro setting
      rw [get?_eq_some_iff, get?_eq_some_iff, entries_ofList nodup,
        entries_ofList nodup', perm.mem_iff]
    simp only [find?_violations]
    rw [violations_eq_filterMap, names]
    apply List.filterMap_congr
    intro rule _
    rw [RuleSet.violation?, RuleSet.violation?, same]

/-- **Rules do not depend on each other.** When a rule is declared once more, all other violations
stay and keep their order; what the rule finds as it is now set stands where the rule was declared
first, or last if it was not declared before. When it is switched off, its violation is left out, as
if the rule had never been declared, and no report becomes one that is rejected. When different
rules are declared in another order, the violations are the same, in this order. -/
theorem validate_local (entries : List RuleEntry) (rule : RuleName) (setting : Setting)
    (m : Message) :
    let old := validate m (.ofList entries)
    let new := validate m (.ofList (entries ++ [(rule, setting)]))
    (new.violations.filter (fun v => v.rule ≠ rule) =
      old.violations.filter fun v => v.rule ≠ rule) ∧
    (∃ front back,
      old.violations = front ++ ((RuleSet.ofList entries).violation? m rule).toList ++ back ∧
      new.violations = front ++ (checkRule rule setting m).toList ++ back ∧
      (∀ v ∈ front, v.rule ∈ RuleSet.before entries rule) ∧
      (∀ v ∈ back, v.rule ≠ rule ∧ v.rule ∉ RuleSet.before entries rule) ∧
      (rule ∉ entries.map Prod.fst → back = [])) ∧
    (setting.severity = .off →
      new = { old with violations := old.violations.filter fun v => v.rule ≠ rule } ∧
      new = validate m (.ofList (entries.filter fun e => e.1 ≠ rule)) ∧
      ∀ strict, isRejected strict [new] = true → isRejected strict [old] = true) ∧
    (∀ others, entries.Perm others → (entries.map Prod.fst).Nodup →
      let other := validate m (.ofList others)
      other.violations.Perm old.violations ∧
      other.violations = (others.map Prod.fst).filterMap fun r => old.violations.find? fun v =>
        v.rule = r) := by
  intro old new
  refine ⟨filter_violations_override m entries rule setting,
    exists_violations_override m entries rule setting, ?_, ?_⟩
  · intro off
    obtain ⟨fewer, undeclared⟩ := validate_off m entries off
    have sublist : new.violations.Sublist old.violations := by
      rw [show new = _ from fewer]
      exact List.filter_sublist
    exact ⟨fewer, undeclared, fun strict => isRejected_of_sublist sublist⟩
  · intro others perm nodup
    exact violations_of_perm m perm nodup

/-- A rule that is switched off and on again still comes before one that was declared after it. -/
example :
    let shortest : Nat → RuleEntry := fun n => (.headerMinLength, ⟨.error, .always, .length n⟩)
    let off : RuleEntry := (.headerMinLength, ⟨.off, .always, .length 9⟩)
    let typed : RuleEntry := (.typeEmpty, ⟨.warning, .never, .none⟩)
    let found := fun entries => (validate (.parse "hello") (.ofList entries)).rules
    found [shortest 9, typed] = [.headerMinLength, .typeEmpty] ∧
      found [shortest 9, typed, off] = [.typeEmpty] ∧
      found [shortest 9, typed, off, shortest 8] = [.headerMinLength, .typeEmpty] ∧
      found [shortest 9, typed, shortest 3] = [.typeEmpty] := by
  decide +kernel

end CommitLint
