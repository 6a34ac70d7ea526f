import CommitLint.Proofs.EntryForms
import Mathlib

/-!
# Declared rules

What a list of declarations comes to. A rule that is declared several times stands where it was
declared first, with the setting that it was given last; what is declared for one rule changes
nothing for another.

* `names_ofList`, `get?_ofList` — the first place and the last setting of a rule;
* `pairwise_names_ofList`, `get?_ofList_eq_some_iff` — the same, told by where the declarations
  stand;
* `declarations_kept` — all that is known of the rules that were declared;
* `names_ofList_filter`, `get?_ofList_filter` — declarations without those of one rule;
* `exists_names_override` — where a rule stands that is declared once more.
-/

namespace CommitLint

/-! ### Lists without repetitions -/

section

variable {α : Type} [DecidableEq α]

/-- One more item counts only if it is new. -/
theorem eraseDups_concat (l : List α) (a : α) :
    (l ++ [a]).eraseDups = if a ∈ l then l.eraseDups else l.eraseDups ++ [a] := by
  rw [List.eraseDups_append]
  by_cases mem : a ∈ l <;> simp [List.removeAll, mem, List.eraseDups_cons]

/-- Items that are left out may be left out before or after. -/
theorem eraseDups_filter (p : α → Bool) (l : List α) :
    (l.filter p).eraseDups = l.eraseDups.filter p := by
  induction l using List.reverseRecOn with
  | nil => rfl
  | append_singleton l a ih =>
    rw [List.filter_append, eraseDups_concat]
    by_cases keep : p a = true
    · have one : [a].filter p = [a] := by simp [keep]
      rw [one, eraseDups_concat, ih]
      by_cases mem : a ∈ l <;> simp [mem, keep]
    · have one : [a].filter p = [] := by simp [keep]
      rw [one, List.append_nil, ih]
      by_cases mem : a ∈ l <;> simp [mem, keep]

/-- Items that are counted once stand in the order in which they stand first. -/
theorem pairwise_eraseDups (l : List α) :
    l.eraseDups.Pairwise fun a b => l.idxOf a < l.idxOf b := by
  induction l using List.reverseRecOn with
  | nil => exact List.Pairwise.nil
  | append_singleton l a ih =>
    have inside : ∀ b ∈ l.eraseDups, (l ++ [a]).idxOf b = l.idxOf b := fun b mem =>
      List.idxOf_append_of_mem (List.mem_eraseDups.1 mem)
    have kept : l.eraseDups.Pairwise fun b c => (l ++ [a]).idxOf b < (l ++ [a]).idxOf c := by
      refine ih.imp_of_mem fun {b c} hb hc earlier => ?_
      rw [inside b hb, inside c hc]
      exact earlier
    rw [eraseDups_concat]
    split
    · exact kept
    · next new =>
      refine List.pairwise_append.2 ⟨kept, List.pairwise_singleton _ a, fun b hb c hc => ?_⟩
      obtain rfl := List.mem_singleton.1 hc
      have last : (l ++ [c]).idxOf c = l.length := by
        rw [List.idxOf_append_of_notMem new, List.idxOf_cons_self, Nat.add_zero]
      rw [inside b hb, last]
      exact List.idxOf_lt_length_of_mem (List.mem_eraseDups.1 hb)

end

namespace RuleSet

/-! ### One declaration -/

theorem mem_putEntry_iff {entries : List RuleEntry} {e f : RuleEntry} :
    f ∈ putEntry entries e ↔ f = e ∨ (f ∈ entries ∧ f.1 ≠ e.1) := by
  rw [putEntry]
  split
  · next declared =>
    obtain ⟨old, oldMem, name⟩ := List.mem_map.1 declared
    rw [List.mem_map]
    constructor
    · rintro ⟨other, mem, rfl⟩
      split
      · exact .inl rfl
      · next different => exact .inr ⟨mem, different⟩
    · rintro (rfl | ⟨mem, different⟩)
      · exact ⟨old, oldMem, if_pos name⟩
      · exact ⟨f, mem, if_neg different⟩
  · next new =>
    rw [List.mem_append, List.mem_singleton]
    constructor
    · rintro (mem | same)
      · refine .inr ⟨mem, fun same => new (List.mem_map.2 ⟨f, mem, same⟩)⟩
      · exact .inl same
    · rintro (same | ⟨mem, -⟩)
      · exact .inr same
      · exact .inl mem

/-- A declaration sets its own rule, and no other. -/
theorem get?_put (rules : RuleSet) (e : RuleEntry) (rule : RuleName) :
    (rules.put e).get? rule = if rule = e.1 then some e.2 else rules.get? rule := by
  apply Option.ext
  intro setting
  have declared : (rules.put e).get? rule = some setting ↔
      (rule, setting) ∈ putEntry rules.entries e :=
    get?_eq_some_iff
  rw [declared, mem_putEntry_iff]
  by_cases same : rule = e.1
  · subst same
    simp [Prod.ext_iff, eq_comm]
  · simp [same, get?_eq_some_iff, Prod.ext_iff]

theorem ofList_concat (entries : List RuleEntry) (e : RuleEntry) :
    ofList (entries ++ [e]) = (ofList entries).put e := by
  rw [ofList, List.foldl_append]
  rfl

/-! ### All declarations -/

/-- The rules stand in the order in which they were declared first. -/
theorem names_ofList (entries : List RuleEntry) :
    (ofList entries).names = (entries.map Prod.fst).eraseDups := by
  induction entries using List.reverseRecOn with
  | nil => rfl
  | append_singleton entries e ih =>
    rw [ofList_concat, names_put, ih, List.map_append, List.map_singleton, eraseDups_concat]
    simp only [List.mem_eraseDups]

/-- A rule has the setting that it was given last. -/
theorem get?_ofList (entries : List RuleEntry) (rule : RuleName) :
    (ofList entries).get? rule = (entries.reverse.find? fun e => e.1 = rule).map Prod.snd := by
  induction entries using List.reverseRecOn with
  | nil => rfl
  | append_singleton entries e ih =>
    rw [ofList_concat, get?_put, ih, List.reverse_concat, List.find?_cons]
    by_cases same : e.1 = rule
    · simp [same]
    · simp [same, Ne.symm same]

/-- Of two rules the one that was declared first stands first. -/
theorem pairwise_names_ofList (entries : List RuleEntry) :
    (ofList entries).names.Pairwise fun rule other =>
      (entries.map Prod.fst).idxOf rule < (entries.map Prod.fst).idxOf other := by
  rw [names_ofList]
  exact pairwise_eraseDups _

/-- A rule has a setting when this was declared of it, and nothing was declared of it later. -/
theorem get?_ofList_eq_some_iff {entries : List RuleEntry} {rule : RuleName} {setting : Setting} :
    (ofList entries).get? rule = some setting ↔
      ∃ earlier later, entries = earlier ++ (rule, setting) :: later ∧
      rule ∉ later.map Prod.fst := by
  rw [get?_ofList, Option.map_eq_some_iff]
  constructor
  · rintro ⟨e, found, rfl⟩
    -- Seen from the end, the declaration is the first of the rule.
    obtain ⟨name, later, earlier, eq, others⟩ := List.find?_eq_some_iff_append.1 found
    obtain rfl := of_decide_eq_true name
    refine ⟨earlier.reverse, later.reverse, ?_, ?_⟩
    · rw [← List.reverse_reverse entries, eq]
      simp
    · intro mem
      obtain ⟨f, inside, same⟩ := List.mem_map.1 mem
      simpa [same] using others f (List.mem_reverse.1 inside)
  · rintro ⟨earlier, later, rfl, last⟩
    refine ⟨(rule, setting), List.find?_eq_some_iff_append.2 ?_, rfl⟩
    refine ⟨decide_eq_true rfl, later.reverse, earlier.reverse, by simp, fun f mem => ?_⟩
    have different : f.1 ≠ rule :=
      fun same => last (List.mem_map.2 ⟨f, List.mem_reverse.1 mem, same⟩)
    simp [different]

/-- The rules that are declared are those that have a setting. -/
theorem mem_names_iff {rules : RuleSet} {rule : RuleName} :
    rule ∈ rules.names ↔ ∃ setting, rules.get? rule = some setting := by
  simp [names, get?_eq_some_iff]

theorem get?_eq_none_iff {rules : RuleSet} {rule : RuleName} :
    rules.get? rule = none ↔ rule ∉ rules.names := by
  rw [mem_names_iff, ← Option.isSome_iff_exists, Option.not_isSome_iff_eq_none]

/-- There are as many rules in a set as different ones were declared. -/
theorem size_ofList (entries : List RuleEntry) :
    (ofList entries).size = (entries.map Prod.fst).toFinset.card := by
  have same : (ofList entries).names.toFinset = (entries.map Prod.fst).toFinset := by
    ext rule
    rw [List.mem_toFinset, List.mem_toFinset, names_ofList, List.mem_eraseDups]
  rw [size_eq_length_names, ← same]
  exact (List.toFinset_card_of_nodup (ofList entries).nodup).symm

/-- A set has no more rules than there are. -/
theorem size_le (rules : RuleSet) : rules.size ≤ RuleName.all.length := by
  have inside : rules.names ⊆ RuleName.all := fun rule _ => RuleName.mem_all rule
  rw [size_eq_length_names]
  exact (List.subperm_of_subset rules.nodup inside).length_le

theorem mem_enabled_iff {rules : RuleSet} {e : RuleEntry} :
    e ∈ rules.enabled ↔ e ∈ rules.entries ∧ e.2.severity ≠ .off := by
  rw [enabled, List.mem_filter, Setting.isEnabled, decide_eq_true_iff]

/-- **What declarations come to.** The rules of the set are the different ones that were declared,
in the order of their first declarations. A rule has the setting of its last declaration, and none
if it was not declared; this is the setting that stands beside it. There are as many rules as
different ones were declared, and so nine at most; those that take part in a check are the ones that
are not off, in the same order; and a set that is declared anew entry by entry is the same. -/
theorem declarations_kept (entries : List RuleEntry) :
    let rules := ofList entries
    let declared := entries.map Prod.fst
    (rules.names.Nodup ∧ (∀ rule, rule ∈ rules.names ↔ rule ∈ declared) ∧
      rules.names.Pairwise fun rule other => declared.idxOf rule < declared.idxOf other) ∧
    (∀ rule setting, rules.get? rule = some setting ↔
      ∃ earlier later, entries = earlier ++ (rule, setting) :: later ∧ rule ∉ later.map Prod.fst) ∧
    (∀ rule, rules.get? rule = none ↔ rule ∉ declared) ∧
    (∀ rule setting, (rule, setting) ∈ rules.entries ↔ rules.get? rule = some setting) ∧
    (rules.size = declared.toFinset.card ∧ rules.size ≤ 9) ∧
    (rules.enabled.Sublist rules.entries ∧
      ∀ e, e ∈ rules.enabled ↔ e ∈ rules.entries ∧ e.2.severity ≠ .off) ∧
    ofList rules.entries = rules := by
  intro rules declared
  have names : ∀ rule, rule ∈ rules.names ↔ rule ∈ declared := by
    intro rule
    rw [names_ofList, List.mem_eraseDups]
  refine ⟨⟨rules.nodup, names, pairwise_names_ofList entries⟩,
    fun _ _ => get?_ofList_eq_some_iff, ?_,
    fun _ _ => get?_eq_some_iff.symm, ⟨size_ofList entries, size_le rules⟩,
    ⟨List.filter_sublist, fun _ => mem_enabled_iff⟩, ofList_entries rules⟩
  intro rule
  rw [get?_eq_none_iff, names]

/-! ### Declarations without those of one rule -/

theorem names_ofList_filter (entries : List RuleEntry) (rule : RuleName) :
    (ofList (entries.filter fun e => e.1 ≠ rule)).names =
      (ofList entries).names.filter fun r => r ≠ rule := by
  rw [names_ofList, names_ofList, ← eraseDups_filter, List.filter_map]
  rfl

theorem get?_ofList_filter (entries : List RuleEntry) {rule other : RuleName}
    (different : other ≠ rule) :
    (ofList (entries.filter fun e => e.1 ≠ rule)).get? other = (ofList entries).get? other := by
  have same : ∀ e : RuleEntry, (e.1 ≠ rule ∧ e.1 = other) ↔ e.1 = other := by
    intro e
    exact ⟨And.right, fun eq => ⟨eq ▸ different, eq⟩⟩
  rw [get?_ofList, get?_ofList, ← List.filter_reverse, List.find?_filter]
  simp only [decide_eq_true_eq, same]

/-! ### A rule that is declared once more -/

/-- The rules that are declared before a rule is declared first. -/
def before (entries : List RuleEntry) (rule : RuleName) : List RuleName :=
  (entries.takeWhile fun e => e.1 ≠ rule).map Prod.fst

theorem not_mem_before (entries : List RuleEntry) (rule : RuleName) :
    rule ∉ before entries rule := by
  intro mem
  obtain ⟨e, earlier, name⟩ := List.mem_map.1 mem
  simpa [name] using List.mem_takeWhile_imp earlier

/-- Before a rule that is not declared stand all rules. -/
theorem before_of_not_mem {entries : List RuleEntry} {rule : RuleName}
    (new : rule ∉ entries.map Prod.fst) :
    before entries rule = entries.map Prod.fst := by
  have all : (entries.takeWhile fun e => e.1 ≠ rule) = entries := by
    rw [List.takeWhile_eq_self_iff]
    intro e mem
    exact decide_eq_true fun same => new (List.mem_map.2 ⟨e, mem, same⟩)
  rw [before, all]

theorem exists_map_fst_concat (entries : List RuleEntry) (rule : RuleName) :
    ∃ rest, entries.map Prod.fst ++ [rule] = before entries rule ++ rule :: rest := by
  induction entries with
  | nil => exact ⟨[], rfl⟩
  | cons e entries ih =>
    by_cases same : e.1 = rule
    · exact ⟨entries.map Prod.fst ++ [rule], by simp [before, same]⟩
    · obtain ⟨rest, eq⟩ := ih
      refine ⟨rest, ?_⟩
      have more : before (e :: entries) rule = e.1 :: before entries rule := by simp [before, same]
      rw [more, List.map_cons, List.cons_append, eq, List.cons_append]

/-- A rule that is declared once more stands behind those that were declared before its first
declaration, and before all others. -/
theorem exists_names_override (entries : List RuleEntry) (rule : RuleName) (setting : Setting) :
    ∃ after, (ofList (entries ++ [(rule, setting)])).names =
      (before entries rule).eraseDups ++ rule :: after ∧
      ∀ other ∈ after, other ≠ rule ∧ other ∉ before entries rule := by
  obtain ⟨rest, eq⟩ := exists_map_fst_concat entries rule
  have first : (rule :: rest).removeAll (before entries rule) =
      rule :: rest.removeAll (before entries rule) := by
    simp [List.removeAll, not_mem_before]
  refine ⟨((rest.removeAll (before entries rule)).filter fun r => !r == rule).eraseDups, ?_, ?_⟩
  · rw [names_ofList, List.map_append, List.map_singleton, eq, List.eraseDups_append, first,
      List.eraseDups_cons]
  · intro other mem
    rw [List.mem_eraseDups, List.mem_filter] at mem
    obtain ⟨late, different⟩ := mem
    exact ⟨by simpa using different, by simpa using (List.mem_filter.1 late).2⟩

end RuleSet

end CommitLint
