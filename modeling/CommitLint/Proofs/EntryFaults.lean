import CommitLint.Proofs.EntryForms
import Mathlib

/-!
# Faults of entries

What can be wrong with an entry that should stand for a rule, and the error that tells it. Its parts
are looked at one after the other: the key, whether it has an array under it and anything in that,
the severity, the applicability, the value, and last the number of parts. A fault is one only when
all before it is as it should be, so that no entry has two.

* `FirstFault`, `mapM_eq_error_iff` — a list is not read because of the first item that is not;
* `EntryFault`, `ofTableEntry_eq_error_iff` — an entry is not read because of its fault;
* `exists_entryFault_iff` — an entry has a fault when it is no form of a rule;
* `ofTable_eq_error_iff` — a table is not read because of the first entry with a fault.
-/

namespace CommitLint

open Toml (Value)

/-! ### The first item that is not read -/

section

variable {ε α β : Type}

/-- Whether items are sound up to one with a fault. Those behind it may be anything. -/
def FirstFault (sound : α → Prop) (fault : α → ε → Prop) (xs : List α) (e : ε) : Prop :=
  ∃ before x after, xs = before ++ x :: after ∧ (∀ y ∈ before, sound y) ∧ fault x e

theorem not_firstFault_nil {sound : α → Prop} {fault : α → ε → Prop} {e : ε} :
    ¬ FirstFault sound fault [] e := by
  rintro ⟨before, x, after, eq, -⟩
  simp at eq

/-- The first fault is that of the first item, or the item is sound and the fault is among the
others. -/
theorem firstFault_cons_iff {sound : α → Prop} {fault : α → ε → Prop} {x : α} {xs : List α}
    {e : ε} :
    FirstFault sound fault (x :: xs) e ↔ fault x e ∨ (sound x ∧ FirstFault sound fault xs e) := by
  constructor
  · rintro ⟨before, y, after, eq, sounds, found⟩
    rcases List.cons_eq_append_iff.1 eq with ⟨rfl, same⟩ | ⟨rest, rfl, rfl⟩
    · obtain ⟨rfl, rfl⟩ := List.cons.inj same
      exact .inl found
    · exact .inr ⟨sounds x List.mem_cons_self, rest, y, after, rfl,
        fun z mem => sounds z (List.mem_cons_of_mem x mem), found⟩
  · rintro (found | ⟨first, before, y, after, rfl, sounds, found⟩)
    · exact ⟨[], x, xs, rfl, by simp, found⟩
    · exact ⟨x :: before, y, after, rfl, List.forall_mem_cons.2 ⟨first, sounds⟩, found⟩

/-- Faults are compared item by item. -/
theorem firstFault_congr {sound sound' : α → Prop} {fault fault' : α → ε → Prop}
    (same : ∀ x, sound x ↔ sound' x)
    (alike : ∀ x e, fault x e ↔ fault' x e) (xs : List α) (e : ε) :
    FirstFault sound fault xs e ↔ FirstFault sound' fault' xs e := by
  simp only [FirstFault, same, alike]

/-- What is done in two steps fails with the first, or with the second after the first has
succeeded. -/
theorem bind_eq_error_iff {x : Except ε α} {f : α → Except ε β} {e : ε} :
    (x >>= f) = .error e ↔ x = .error e ∨ ∃ a, x = .ok a ∧ f a = .error e := by
  cases x <;> simp [bind, Except.bind]

theorem map_eq_error_iff {x : Except ε α} {f : α → β} {e : ε} :
    x.map f = .error e ↔ x = .error e := by
  cases x <;> simp [Except.map]

/-- Reading each of a list fails with the first that is not read. -/
theorem mapM_eq_error_iff {f : α → Except ε β} {xs : List α} {e : ε} :
    xs.mapM f = .error e ↔ FirstFault (fun x => ∃ y, f x = .ok y)
    (fun x e => f x = .error e) xs e := by
  induction xs with
  | nil => exact iff_of_false nofun not_firstFault_nil
  | cons x xs ih =>
    have rest : ∀ y, (xs.mapM f >>= fun ys => pure (y :: ys)) = .error e ↔
        xs.mapM f = .error e := by
      intro y
      rw [bind_eq_error_iff]
      exact or_iff_left (by rintro ⟨ys, -, never⟩; cases never)
    rw [List.mapM_cons, bind_eq_error_iff, firstFault_cons_iff, ← ih]
    simp only [rest, exists_and_right]

/-- What stands behind an item that is not read does not count. -/
theorem exists_mapM_eq_error {f : α → Except ε β} {x : α} {e : ε} (fails : f x = .error e)
    (before : List α) :
    ∃ first, ∀ after, (before ++ x :: after).mapM f = .error first := by
  have all : ∀ after, (before ++ x :: after).mapM f = before.mapM f >>= fun _ => .error e := by
    intro after
    rw [List.mapM_append, List.mapM_cons, fails]
    rfl
  simp only [all]
  cases before.mapM f with
  | error first => exact ⟨first, fun _ => rfl⟩
  | ok ys => exact ⟨e, fun _ => rfl⟩

end

/-! ### Faults of values -/

/-- The kinds of values in documents that rules take, in a word and as they are asked for. -/
def valueWords : List (ValueKind × String × String) :=
  [(.length, "integer", "an integer"), (.text, "string", "a string"), (.list, "array", "a list")]

/-- What is wrong with an item of a list of texts: it is no text. -/
def ItemFault (rule : RuleName) (v : Value) (e : ConfigError) : Prop :=
  (∀ s, v ≠ .string s) ∧ e = .invalidValue rule.key
    ("list items must be strings, found " ++ v.shown)

/-- What is wrong with the value of a rule. -/
inductive ValueFault (rule : RuleName) : Option Value → ConfigError → Prop
  /-- A value is there, and the rule takes none. -/
  | unexpected {v : Value} : rule.valueKind = .none →
    ValueFault rule (some v) (.invalidValue rule.key ("takes no value, found " ++ v.shown))
  /-- No value is there, and the rule takes one. -/
  | missing : rule.valueKind ≠ .none → ValueFault rule none (.missingValue rule.key)
  /-- The value is of another kind than the rule takes. -/
  | otherKind {v : Value} {kind asked : String} : (rule.valueKind, kind, asked) ∈ valueWords →
    v.kindName ≠ kind →
    ValueFault rule (some v) (.invalidValue rule.key
      ("expected " ++ asked ++ ", found " ++ v.kindName))
  /-- The value is a length below zero. -/
  | negative {n : Int} : rule.valueKind = .length → n < 0 →
    ValueFault rule (some (.integer n))
      (.invalidValue rule.key ("length must be non-negative, found " ++ Int.repr n))
  /-- An item of the list is no text. The first one that is not counts. -/
  | item {items : List Value} {e : ConfigError} : rule.valueKind = .list →
    FirstFault (fun v => ∃ s, v = .string s) (ItemFault rule) items e →
    ValueFault rule (some (.array items)) e

theorem listItem_eq_error_iff {rule : RuleName} {v : Value} {e : ConfigError} :
    RuleEntry.listItem rule v = .error e ↔ ItemFault rule v e := by
  cases v <;> simp [RuleEntry.listItem, ItemFault, eq_comm]

theorem mapM_listItem_eq_error_iff {rule : RuleName} {items : List Value} {e : ConfigError} :
    items.mapM (RuleEntry.listItem rule) = .error e ↔
      FirstFault (fun v => ∃ s, v = .string s) (ItemFault rule) items e := by
  rw [mapM_eq_error_iff]
  refine firstFault_congr (fun v => ?_) (fun v e => listItem_eq_error_iff) items e
  simp only [listItem_eq_ok_iff]

/-- The kinds that rules ask for tell the values of that kind. -/
theorem kindName_eq_iff (v : Value) :
    (v.kindName = "integer" ↔ ∃ n, v = .integer n) ∧ (v.kindName = "string" ↔ ∃ s, v = .string s) ∧
      (v.kindName = "array" ↔ ∃ items, v = .array items) := by
  cases v <;> simp [Value.kindName]

/-- A value is not read because of its fault. -/
theorem value_eq_error_iff {rule : RuleName} {o : Option Value} {e : ConfigError} :
    RuleEntry.value rule o = .error e ↔ ValueFault rule o e := by
  constructor
  · intro h
    unfold RuleEntry.value at h
    split at h
    · cases h
    · next kind =>
      cases h
      exact .unexpected kind
    · next taken =>
      cases h
      exact .missing taken
    · next n kind =>
      split at h
      · cases h
      · next below =>
        cases h
        exact .negative kind (Int.not_le.1 below)
    · next v other kind =>
      cases h
      refine @ValueFault.otherKind rule v "integer" "an integer"
        (by simp [kind, valueWords]) fun same => ?_
      obtain ⟨n, rfl⟩ := (kindName_eq_iff v).1.1 same
      exact other n rfl
    · cases h
    · next v other kind =>
      cases h
      refine @ValueFault.otherKind rule v "string" "a string"
        (by simp [kind, valueWords]) fun same => ?_
      obtain ⟨s, rfl⟩ := (kindName_eq_iff v).2.1.1 same
      exact other s rfl
    · next items kind => exact .item kind (mapM_listItem_eq_error_iff.1 (map_eq_error_iff.1 h))
    · next v other kind =>
      cases h
      refine @ValueFault.otherKind rule v "array" "a list" (by simp [kind, valueWords]) fun same =>
        ?_
      obtain ⟨items, rfl⟩ := (kindName_eq_iff v).2.2.1 same
      exact other items rfl
  · rintro (kind | taken | ⟨asked, other⟩ | ⟨kind, below⟩ | ⟨kind, first⟩)
    · simp only [RuleEntry.value, kind]
    · unfold RuleEntry.value
      cases kind : rule.valueKind <;> first | rfl | exact absurd kind taken
    · simp only [valueWords, List.mem_cons, Prod.mk.injEq, List.not_mem_nil, or_false] at asked
      rcases asked with ⟨kind, rfl, rfl⟩ | ⟨kind, rfl, rfl⟩ | ⟨kind, rfl, rfl⟩
      all_goals
        unfold RuleEntry.value
        rw [kind]
        split <;> simp_all [Value.kindName]
    · simp only [RuleEntry.value, kind]
      rw [if_neg (Int.not_le.2 below)]
    · simp only [RuleEntry.value, kind]
      exact map_eq_error_iff.2 (mapM_listItem_eq_error_iff.2 first)

/-! ### Faults of severities and applicabilities -/

theorem severity_eq_error_iff {rule : RuleName} {v : Value} {e : ConfigError} :
    RuleEntry.severity rule v = .error e ↔
    (∀ s, ¬ SeverityForm v s) ∧ e = .invalidSeverity rule.key v.shown := by
  simp only [← severity?_eq_some_iff, RuleEntry.severity]
  cases RuleEntry.severity? v <;> simp [eq_comm]

theorem applicability_eq_error_iff {rule : RuleName} {o : Option Value} {e : ConfigError} :
    RuleEntry.applicability rule o = .error e ↔
      ∃ v, o = some v ∧ (∀ a, ¬ ApplicabilityForm o a) ∧
      e = .invalidApplicability rule.key v.shown := by
  simp only [← @applicability_eq_ok_iff rule]
  cases o with
  | none => simp [RuleEntry.applicability]
  | some v => cases found : RuleEntry.applicability? v <;>
    simp [RuleEntry.applicability, found, eq_comm]

/-! ### Faults of settings, entries and tables -/

/-- What is wrong with the setting of a rule. Its parts are looked at in this order, and what is
wrong with one of them is a fault only when those before it are as they should be. -/
inductive SettingFault (rule : RuleName) : Value → ConfigError → Prop
  /-- It is no array. -/
  | noArray {v : Value} : (∀ items, v ≠ .array items) → SettingFault rule v
    (.invalidValue rule.key ("expected [severity, applicability, value], found " ++ v.kindName))
  /-- It has no parts. -/
  | empty : SettingFault rule (.array []) (.invalidValue rule.key "rule entry is empty")
  /-- The first part is no severity. -/
  | severity {first : Value} {rest : List Value} : (∀ s, ¬ SeverityForm first s) →
    SettingFault rule (.array (first :: rest)) (.invalidSeverity rule.key first.shown)
  /-- The second part is no applicability. -/
  | applicability {first second : Value} {rest : List Value} {s : Severity} : SeverityForm first s →
    (∀ a, ¬ ApplicabilityForm (some second) a) →
    SettingFault rule (.array (first :: second :: rest))
      (.invalidApplicability rule.key second.shown)
  /-- The third part is not what the rule takes, or there is none. -/
  | value {first : Value} {rest : List Value} {s : Severity} {a : Applicability} {e : ConfigError} :
    SeverityForm first s → ApplicabilityForm rest.head? a → ValueFault rule rest[1]? e →
    SettingFault rule (.array (first :: rest)) e
  /-- There are more than three parts. -/
  | length {first : Value} {rest : List Value} {s : Severity} {a : Applicability} {v : RuleValue} :
    SeverityForm first s → ApplicabilityForm rest.head? a → ValueForm rule.valueKind rest[1]? v →
    3 ≤ rest.length → SettingFault rule (.array (first :: rest))
      (.invalidValue rule.key ("expected at most 3 elements, found " ++ Nat.repr (rest.length + 1)))

/-- What is wrong with an entry: its key, or what stands under it. -/
inductive EntryFault : String × Value → ConfigError → Prop
  /-- No rule has the key. -/
  | unknownRule {key : String} {v : Value} : (∀ rule : RuleName, rule.key ≠ key) →
    EntryFault (key, v) (.unknownRule key)
  /-- The setting of the rule has a fault. -/
  | setting {rule : RuleName} {v : Value} {e : ConfigError} : SettingFault rule v e →
    EntryFault (rule.key, v) e

/-- The parts of an array are read in turn, and then they are counted. -/
theorem setting_array_eq_error_iff {rule : RuleName} {first : Value} {rest : List Value}
    {e : ConfigError} :
    RuleEntry.setting rule (.array (first :: rest)) = .error e ↔
    SettingFault rule (.array (first :: rest)) e := by
  simp only [RuleEntry.setting, bind_eq_error_iff, severity_eq_error_iff, severity_eq_ok_iff,
    applicability_eq_error_iff, applicability_eq_ok_iff, value_eq_error_iff, value_eq_ok_iff]
  constructor
  · rintro (⟨none, rfl⟩ | ⟨s, severity, ⟨second, there, none, rfl⟩
      | ⟨a, applicability, fault | ⟨v, value, made⟩⟩⟩)
    · exact .severity none
    · obtain ⟨more, rfl⟩ := List.head?_eq_some_iff.1 there
      exact .applicability severity none
    · exact .value severity applicability fault
    · split at made
      · next long =>
        cases made
        exact .length severity applicability value
          (by simp only [RuleEntry.maxParts] at long; omega)
      · cases made
  · intro fault
    cases fault with
    | noArray other => exact absurd rfl (other _)
    | severity none => exact .inl ⟨none, rfl⟩
    | applicability severity none => exact .inr ⟨_, severity, .inl ⟨_, rfl, none, rfl⟩⟩
    | value severity applicability fault =>
      exact .inr ⟨_, severity, .inr ⟨_, applicability, .inl fault⟩⟩
    | length severity applicability value long =>
      refine .inr ⟨_, severity, .inr ⟨_, applicability, .inr ⟨_, value, ?_⟩⟩⟩
      rw [if_pos (by simp only [RuleEntry.maxParts]; omega)]
      rfl

/-- A setting is not read because of its fault. -/
theorem setting_eq_error_iff {rule : RuleName} {v : Value} {e : ConfigError} :
    RuleEntry.setting rule v = .error e ↔ SettingFault rule v e := by
  constructor
  · intro h
    unfold RuleEntry.setting at h
    split at h
    · cases h
      exact .empty
    · exact setting_array_eq_error_iff.1 h
    · next noneEmpty noneFilled =>
      cases h
      refine .noArray fun items eq => ?_
      cases items with
      | nil => exact noneEmpty eq
      | cons first rest => exact noneFilled first rest eq
  · intro fault
    cases v with
    | array items =>
      cases items with
      | nil =>
        cases fault with
        | noArray other => exact absurd rfl (other _)
        | empty => rfl
      | cons first rest => exact setting_array_eq_error_iff.2 fault
    | string _ | integer _ | float _ | boolean _ | moment _ | table _ =>
      cases fault
      rfl

/-- An entry is not read because of its fault. -/
theorem ofTableEntry_eq_error_iff {entry : String × Value} {e : ConfigError} :
    RuleEntry.ofTableEntry entry = .error e ↔ EntryFault entry e := by
  constructor
  · intro h
    obtain ⟨key, v⟩ := entry
    unfold RuleEntry.ofTableEntry at h
    split at h
    · next none =>
      cases h
      refine .unknownRule fun rule eq => ?_
      rw [RuleName.ofKey?_eq_some_iff.2 eq.symm] at none
      cases none
    · next rule found =>
      obtain rfl : key = rule.key := RuleName.ofKey?_eq_some_iff.1 found
      exact .setting (setting_eq_error_iff.1 (map_eq_error_iff.1 h))
  · intro fault
    cases fault with
    | @unknownRule key v none =>
      have unknown : RuleName.ofKey? key = Option.none := by
        refine Option.eq_none_iff_forall_ne_some.2 fun rule found => ?_
        exact none rule (RuleName.ofKey?_eq_some_iff.1 found).symm
      simp only [RuleEntry.ofTableEntry, unknown]
    | setting fault =>
      simp only [RuleEntry.ofTableEntry, RuleName.ofKey?_key]
      exact map_eq_error_iff.2 (setting_eq_error_iff.2 fault)

/-- An entry has a fault exactly when it is no form of a rule. -/
theorem exists_entryFault_iff (entry : String × Value) :
    (∃ e, EntryFault entry e) ↔ ¬ ∃ r, EntryForm entry r := by
  simp only [← ofTableEntry_eq_error_iff, ← ofTableEntry_eq_ok_iff]
  cases RuleEntry.ofTableEntry entry <;> simp

/-- A table is not read because of the first of its entries that has a fault. -/
theorem ofTable_eq_error_iff {table : Toml.Table} {e : ConfigError} :
    RuleSet.ofTable table = .error e ↔
    FirstFault (fun entry => ∃ r, EntryForm entry r) EntryFault table e := by
  rw [RuleSet.ofTable, map_eq_error_iff, mapM_eq_error_iff]
  refine firstFault_congr (fun entry => ?_) (fun entry e => ofTableEntry_eq_error_iff) table e
  simp only [ofTableEntry_eq_ok_iff]

end CommitLint
