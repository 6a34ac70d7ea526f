import CommitLint.Proofs.DocumentIntegers
import CommitLint.Proofs.LetterCase
import CommitLint.Proofs.WrittenRules
import Mathlib

/-!
# The forms of entries

What a table must look like to be read as rules, told of its entries one by one and apart from the
order in which reading looks at their parts. `EntryForm` relates an entry to the rule and the
setting that it stands for.

* `ofTableEntry_eq_ok_iff` — an entry is read as a rule exactly when it is a form of it;
* `ofTable_eq_ok_iff` — a table is read entry by entry;
* `get?_eq_some_iff`, `entries_ofList` — rules with different names are kept as they are, in their
  order;
* `ofTable_grammar` — the tables that are read, what they are read as, and that every set of rules
  is read back from the table in which it is written.
-/

namespace CommitLint

open Toml (Value)
open Text (SameButCase lowerCase)

/-! ### Forms -/

def severityNames : List (String × Severity) :=
  [("off", .off), ("0", .off), ("warning", .warning), ("warn", .warning), ("1", .warning),
    ("error", .error),
   ("2", .error)]

/-- A severity is written as its number, or as one of its names in any mix of cases. -/
inductive SeverityForm : Value → Severity → Prop
  | level (s : Severity) : SeverityForm (.integer s.level) s
  | name {text name : String} {s : Severity} : (name, s) ∈ severityNames → SameButCase text name →
    SeverityForm (.string text) s

/-- An applicability is written as its name, and may be left out when it is the usual one. -/
inductive ApplicabilityForm : Option Value → Applicability → Prop
  | omitted : ApplicabilityForm none .always
  | name (a : Applicability) : ApplicabilityForm (some (.string a.name)) a

/-- A value is written as what its shape asks for: nothing, an integer that is not negative, a text,
or texts. -/
inductive ValueForm : ValueKind → Option Value → RuleValue → Prop
  | none : ValueForm .none none .none
  | length (n : Nat) : ValueForm .length (some (.integer n)) (.length n)
  | text (s : String) : ValueForm .text (some (.string s)) (.text s)
  | list (items : List String) : ValueForm .list (some (.array (items.map .string))) (.list items)

/-- A rule is written under its key, as an array of one to three parts. -/
inductive EntryForm : String × Value → RuleEntry → Prop
  | parts {rule : RuleName} {first : Value} {rest : List Value} {s : Severity} {a : Applicability}
    {v : RuleValue} : SeverityForm first s → ApplicabilityForm rest.head? a →
    ValueForm rule.valueKind rest[1]? v → rest.length ≤ 2 →
    EntryForm (rule.key, .array (first :: rest)) (rule, ⟨s, a, v⟩)

/-- The shape of a value is the one that it is written for. -/
theorem ValueForm.kind_eq {kind : ValueKind} {o : Option Value} {v : RuleValue}
    (h : ValueForm kind o v) :
    v.kind = kind := by
  cases h <;> rfl

/-! ### Severities -/

theorem ofLevel?_eq_some_iff {n : Int} {s : Severity} :
    Severity.ofLevel? n = some s ↔ n = s.level := by
  constructor
  · intro h
    unfold Severity.ofLevel? at h
    split at h
    · cases h
      rfl
    · cases h
      rfl
    · cases h
      rfl
    · cases h
  · rintro rfl
    exact Severity.ofLevel?_level s

/-- A text names a severity when its lower case is one of the names. -/
theorem ofName?_eq_some_iff_mem {text : String} {s : Severity} :
    Severity.ofName? text = some s ↔ (lowerCase text, s) ∈ severityNames := by
  simp only [Severity.ofName?, severityNames, List.mem_cons, List.not_mem_nil,
    or_false, Prod.mk.injEq]
  generalize lowerCase text = key
  constructor
  · intro h
    split at h
    · next off =>
      cases h
      rcases off with rfl | rfl <;> simp
    · split at h
      · next warning =>
        cases h
        rcases warning with rfl | rfl | rfl <;> simp
      · split at h
        · next error =>
          cases h
          rcases error with rfl | rfl <;> simp
        · cases h
  · rintro (⟨rfl, rfl⟩ | ⟨rfl, rfl⟩ | ⟨rfl, rfl⟩ | ⟨rfl, rfl⟩ | ⟨rfl, rfl⟩ | ⟨rfl, rfl⟩
      | ⟨rfl, rfl⟩) <;> rfl

/-- The names are made of letters and digits whose case is told apart by A to Z alone. -/
theorem lowerCase_eq_name_iff {name : String} {s : Severity} (h : (name, s) ∈ severityNames)
    (text : String) :
    lowerCase text = name ↔ SameButCase text name := by
  have words : severityNames.all fun e => Text.isLowerWord e.1 := by
    simp only [severityNames, List.all_cons, List.all_nil, Text.isLowerWord]
    repeat rw [String.toList_ofList]
    decide
  exact Text.lowerCase_eq_iff (List.all_eq_true.1 words _ h) text

theorem ofName?_eq_some_iff {text : String} {s : Severity} :
    Severity.ofName? text = some s ↔ ∃ name, (name, s) ∈ severityNames ∧ SameButCase text name := by
  rw [ofName?_eq_some_iff_mem]
  constructor
  · intro mem
    exact ⟨_, mem, (lowerCase_eq_name_iff mem text).1 rfl⟩
  · rintro ⟨name, mem, same⟩
    rwa [(lowerCase_eq_name_iff mem text).2 same]

theorem severity?_eq_some_iff {v : Value} {s : Severity} :
    RuleEntry.severity? v = some s ↔ SeverityForm v s := by
  constructor
  · intro h
    cases v with
    | integer n =>
      obtain rfl := ofLevel?_eq_some_iff.1 h
      exact .level s
    | string text =>
      obtain ⟨name, mem, same⟩ := ofName?_eq_some_iff.1 h
      exact .name mem same
    | float _ | boolean _ | moment _ | array _ | table _ => cases h
  · rintro (_ | ⟨mem, same⟩)
    · exact Severity.ofLevel?_level s
    · exact ofName?_eq_some_iff.2 ⟨_, mem, same⟩

theorem severity_eq_ok_iff {rule : RuleName} {v : Value} {s : Severity} :
    RuleEntry.severity rule v = .ok s ↔ SeverityForm v s := by
  rw [← severity?_eq_some_iff, RuleEntry.severity]
  cases RuleEntry.severity? v <;> simp

/-! ### Applicabilities and values -/

theorem applicability_eq_ok_iff {rule : RuleName} {o : Option Value} {a : Applicability} :
    RuleEntry.applicability rule o = .ok a ↔ ApplicabilityForm o a := by
  constructor
  · intro h
    unfold RuleEntry.applicability at h
    split at h
    · cases h
      exact .omitted
    · next v =>
      split at h
      · next b found =>
        cases h
        unfold RuleEntry.applicability? at found
        split at found
        · next text =>
          unfold Applicability.ofName? at found
          split at found
          · next always =>
            cases found
            exact always ▸ .name .always
          · split at found
            · next never =>
              cases found
              exact never ▸ .name .never
            · cases found
        · cases found
      · cases h
  · rintro (_ | a)
    · rfl
    · simp only [RuleEntry.applicability, RuleEntry.applicability?, Applicability.ofName?_name]

theorem listItem_eq_ok_iff {rule : RuleName} {v : Value} {s : String} :
    RuleEntry.listItem rule v = .ok s ↔ v = .string s := by
  cases v <;> simp [RuleEntry.listItem]

/-- Reading each of a list gives a list exactly when each gives its own. -/
theorem mapM_eq_ok_iff {ε α β : Type} {f : α → Except ε β} {xs : List α} {ys : List β} :
    xs.mapM f = .ok ys ↔ List.Forall₂ (fun x y => f x = .ok y) xs ys := by
  induction xs generalizing ys with
  | nil =>
    rw [List.mapM_nil, List.forall₂_nil_left_iff]
    exact ⟨fun h => (Except.ok.inj h).symm, fun h => h ▸ rfl⟩
  | cons x xs ih =>
    rw [List.mapM_cons, List.forall₂_cons_left_iff]
    cases first : f x with
    | error e =>
      refine ⟨fun h => (by cases h), ?_⟩
      rintro ⟨y, zs, found, -, -⟩
      cases found
    | ok y =>
      cases others : xs.mapM f with
      | error e =>
        refine ⟨fun h => (by cases h), ?_⟩
        rintro ⟨z, zs, -, rest, -⟩
        rw [← ih, others] at rest
        cases rest
      | ok zs =>
        have rest := ih.1 others
        constructor
        · intro h
          exact ⟨y, zs, rfl, rest, (Except.ok.inj h).symm⟩
        · rintro ⟨_, ws, same, rest, rfl⟩
          rw [← ih, others] at rest
          cases same
          cases rest
          rfl

theorem mapM_listItem_eq_ok_iff {rule : RuleName} {vs : List Value} {items : List String} :
    vs.mapM (RuleEntry.listItem rule) = .ok items ↔ vs = items.map .string := by
  rw [mapM_eq_ok_iff]
  simp only [listItem_eq_ok_iff]
  rw [← List.forall₂_eq_eq_eq, List.forall₂_map_right_iff]

theorem value_eq_ok_iff {rule : RuleName} {o : Option Value} {v : RuleValue} :
    RuleEntry.value rule o = .ok v ↔ ValueForm rule.valueKind o v := by
  constructor
  · intro h
    unfold RuleEntry.value at h
    split at h
    · next kind =>
      cases h
      exact kind ▸ .none
    · cases h
    · cases h
    · next n kind =>
      split at h
      · next whole =>
        cases h
        rw [kind]
        obtain ⟨m, rfl⟩ := Int.eq_ofNat_of_zero_le whole
        exact .length m
      · cases h
    · cases h
    · next s kind =>
      cases h
      exact kind ▸ .text s
    · cases h
    · next vs kind =>
      cases read : vs.mapM (RuleEntry.listItem rule) with
      | error e =>
        rw [read] at h
        cases h
      | ok items =>
        rw [read] at h
        cases h
        rw [kind, mapM_listItem_eq_ok_iff.1 read]
        exact .list items
    · cases h
  · generalize kind : rule.valueKind = shape
    rintro (_ | n | s | items)
    · simp [RuleEntry.value, kind]
    · simp [RuleEntry.value, kind]
    · simp [RuleEntry.value, kind]
    · simp only [RuleEntry.value, kind]
      rw [mapM_listItem]
      rfl

/-! ### Entries and tables -/

/-- An array is read as a setting exactly when its parts are. -/
theorem setting_array_eq_ok_iff {rule : RuleName} {first : Value} {rest : List Value}
    {setting : Setting} :
    RuleEntry.setting rule (.array (first :: rest)) = .ok setting ↔
      SeverityForm first setting.severity ∧ ApplicabilityForm rest.head? setting.applicability ∧
        ValueForm rule.valueKind rest[1]? setting.value ∧ rest.length ≤ 2 := by
  simp only [RuleEntry.setting, bind_eq_ok_iff, severity_eq_ok_iff, applicability_eq_ok_iff,
    value_eq_ok_iff]
  constructor
  · rintro ⟨s, severity, a, applicability, v, value, made⟩
    split at made
    · cases made
    · next short =>
      cases made
      exact ⟨severity, applicability, value, by simp only [RuleEntry.maxParts] at short; omega⟩
  · rintro ⟨severity, applicability, value, short⟩
    refine ⟨_, severity, _, applicability, _, value, ?_⟩
    rw [if_neg (by simp only [RuleEntry.maxParts]; omega)]

theorem ofTableEntry_eq_ok_iff {entry : String × Value} {e : RuleEntry} :
    RuleEntry.ofTableEntry entry = .ok e ↔ EntryForm entry e := by
  constructor
  · -- The key is looked up before the parts are read, and nothing else is looked at.
    intro h
    obtain ⟨key, v⟩ := entry
    unfold RuleEntry.ofTableEntry at h
    split at h
    · cases h
    · next rule found =>
      obtain rfl : key = rule.key := RuleName.ofKey?_eq_some_iff.1 found
      cases read : RuleEntry.setting rule v with
      | error e =>
        simp only [read] at h
        cases h
      | ok setting =>
        simp only [read] at h
        cases h
        unfold RuleEntry.setting at read
        split at read
        · cases read
        · next first rest =>
          obtain ⟨severity, applicability, value, short⟩ := setting_array_eq_ok_iff.1 read
          exact .parts severity applicability value short
        · cases read
  · rintro ⟨severity, applicability, value, short⟩
    next rule first rest s a v =>
    have read : RuleEntry.setting rule (.array (first :: rest)) = .ok ⟨s, a, v⟩ :=
      setting_array_eq_ok_iff.2 ⟨severity, applicability, value, short⟩
    simp only [RuleEntry.ofTableEntry, RuleName.ofKey?_key, read]
    rfl

theorem mapM_ofTableEntry_eq_ok_iff {table : Toml.Table} {entries : List RuleEntry} :
    table.mapM RuleEntry.ofTableEntry = .ok entries ↔ List.Forall₂ EntryForm table entries := by
  rw [mapM_eq_ok_iff]
  simp only [ofTableEntry_eq_ok_iff]

theorem ofTable_eq_ok_iff {table : Toml.Table} {rules : RuleSet} :
    RuleSet.ofTable table = .ok rules ↔
      ∃ entries, List.Forall₂ EntryForm table entries ∧ RuleSet.ofList entries = rules := by
  simp only [← mapM_ofTableEntry_eq_ok_iff, RuleSet.ofTable]
  cases table.mapM RuleEntry.ofTableEntry <;> simp [Except.map]

/-! ### Rules that are declared once -/

theorem putEntry_of_not_mem {entries : List RuleEntry} {e : RuleEntry}
    (new : e.1 ∉ entries.map Prod.fst) :
    RuleSet.putEntry entries e = entries ++ [e] := by
  rw [RuleSet.putEntry, if_neg new]

/-- Rules with different names are kept as they are, in their order. -/
theorem entries_ofList {entries : List RuleEntry} (nodup : (entries.map Prod.fst).Nodup) :
    (RuleSet.ofList entries).entries = entries := by
  induction entries using List.reverseRecOn with
  | nil => rfl
  | append_singleton entries e ih =>
    rw [List.map_append, List.nodup_append] at nodup
    obtain ⟨before, -, apart⟩ := nodup
    have new : e.1 ∉ entries.map Prod.fst := fun mem => apart e.1 mem e.1 (by simp) rfl
    have last : (RuleSet.ofList (entries ++ [e])).entries =
        RuleSet.putEntry (RuleSet.ofList entries).entries e := by
      rw [RuleSet.ofList, List.foldl_append]
      rfl
    rw [last, ih before, putEntry_of_not_mem new]

/-- What is found under a name is the setting that stands there. -/
theorem get?_eq_some_iff {rules : RuleSet} {rule : RuleName} {setting : Setting} :
    rules.get? rule = some setting ↔ (rule, setting) ∈ rules.entries := by
  rw [RuleSet.get?, Option.map_eq_some_iff]
  constructor
  · rintro ⟨e, found, rfl⟩
    obtain rfl : e.1 = rule := by simpa using List.find?_some found
    exact List.mem_of_find?_eq_some found
  · intro mem
    refine ⟨(rule, setting), ?_, rfl⟩
    cases found : rules.entries.find? fun e => e.1 = rule with
    | none => simpa using List.find?_eq_none.1 found _ mem
    | some e =>
      have name : e.1 = rule := by simpa using List.find?_some found
      -- No rule stands twice, so that the two entries are the same.
      exact congrArg some
        (List.inj_on_of_nodup_map rules.nodup (List.mem_of_find?_eq_some found) mem name)

theorem keys_of_forms {table : Toml.Table} {entries : List RuleEntry}
    (forms : List.Forall₂ EntryForm table entries) :
    table.map Prod.fst = (entries.map Prod.fst).map RuleName.key := by
  induction forms with
  | nil => rfl
  | cons form _ ih =>
    obtain ⟨-, -, -, -⟩ := form
    rw [List.map_cons, List.map_cons, List.map_cons, ih]

/-- An entry stands for one rule with one setting. -/
theorem EntryForm.unique {entry : String × Value} {e f : RuleEntry} (h : EntryForm entry e)
    (g : EntryForm entry f) : e = f := by
  have same := (ofTableEntry_eq_ok_iff.2 h).symm.trans (ofTableEntry_eq_ok_iff.2 g)
  exact Except.ok.inj same

theorem exists_mem_of_forms {table : Toml.Table} {entries : List RuleEntry}
    (forms : List.Forall₂ EntryForm table entries) {entry : String × Value} (mem : entry ∈ table) :
    ∃ e ∈ entries, EntryForm entry e := by
  induction forms with
  | nil => cases mem
  | cons form _ ih =>
    rcases List.mem_cons.1 mem with rfl | mem
    · exact ⟨_, List.mem_cons_self, form⟩
    · obtain ⟨e, inside, found⟩ := ih mem
      exact ⟨e, List.mem_cons_of_mem _ inside, found⟩

theorem exists_forms {table : Toml.Table} (all : ∀ entry ∈ table, ∃ e, EntryForm entry e) :
    ∃ entries, List.Forall₂ EntryForm table entries := by
  induction table with
  | nil => exact ⟨[], .nil⟩
  | cons entry table ih =>
    obtain ⟨e, form⟩ := all entry List.mem_cons_self
    obtain ⟨entries, forms⟩ := ih fun other mem => all other (List.mem_cons_of_mem _ mem)
    exact ⟨e :: entries, .cons form forms⟩

/-- A table is read exactly when each of its entries is a form of a rule. -/
theorem exists_ofTable_eq_ok_iff (table : Toml.Table) :
    (∃ rules, RuleSet.ofTable table = .ok rules) ↔ ∀ entry ∈ table, ∃ e, EntryForm entry e := by
  simp only [ofTable_eq_ok_iff]
  constructor
  · rintro ⟨_, entries, forms, -⟩ entry mem
    obtain ⟨e, -, form⟩ := exists_mem_of_forms forms mem
    exact ⟨e, form⟩
  · intro all
    obtain ⟨entries, forms⟩ := exists_forms all
    exact ⟨_, entries, forms, rfl⟩

/-- A table with different keys is read as the rules that its entries are forms of, in their
order. -/
theorem forms_of_ofTable {table : Toml.Table} {rules : RuleSet} (nodup : (table.map Prod.fst).Nodup)
    (h : RuleSet.ofTable table = .ok rules) : List.Forall₂ EntryForm table rules.entries := by
  obtain ⟨entries, forms, rfl⟩ := ofTable_eq_ok_iff.1 h
  rw [keys_of_forms forms] at nodup
  rwa [entries_ofList nodup.of_map]

/-! ### Rules in writing -/

theorem ofList_entries (rules : RuleSet) : RuleSet.ofList rules.entries = rules :=
  RuleSet.ext_entries (entries_ofList rules.nodup)

theorem keys_toToml (rules : RuleSet) :
    (rules.entries.map RuleEntry.toToml).map Prod.fst = rules.names.map RuleName.key := by
  rw [RuleSet.names, List.map_map, List.map_map]
  rfl

/-- What is written of a setting has no integer that does not fit, if the value has none. -/
theorem toToml_fitting {setting : Setting} (small : ∀ n, setting.value = .length n → n < 2 ^ 63) :
    setting.toToml.Fitting := by
  obtain ⟨s, a, v⟩ := setting
  have level : Value.Fitting (.integer s.level) := by
    cases s <;> exact .integer (by decide)
  have name : Value.Fitting (.string a.name) := .string _
  refine .array (List.forall_mem_cons.2 ⟨level, List.forall_mem_cons.2 ⟨name, ?_⟩⟩)
  cases v with
  | none => simp [RuleValue.toToml]
  | length n =>
    have bound : n < 2 ^ 63 := small n rfl
    refine List.forall_mem_singleton.2 (.integer ?_)
    simp only [Toml.fits, Bool.and_eq_true, decide_eq_true_eq]
    omega
  | text t => exact List.forall_mem_singleton.2 (.string t)
  | list items =>
    refine List.forall_mem_singleton.2 (.array fun v mem => ?_)
    obtain ⟨t, -, rfl⟩ := List.mem_map.1 mem
    exact .string t

/-- **The tables that are read as rules** are those whose entries all are forms of rules. An entry
stands for one rule with one setting; of a table with different keys each entry becomes one rule, in
the order of the table, and each rule is found with the setting that stands under its key.
Conversely, rules whose values have their shapes, and whose lengths are below 2⁶³, are what the
table in which they are written is read as; this table has different keys, and integers that fit. -/
theorem ofTable_grammar :
    (∀ table : Toml.Table,
      (∃ rules, RuleSet.ofTable table = .ok rules) ↔ ∀ entry ∈ table, ∃ e, EntryForm entry e) ∧
    (∀ (entry : String × Value) (e f : RuleEntry), EntryForm entry e → EntryForm entry f → e = f) ∧
    (∀ (table : Toml.Table) (rules : RuleSet), (table.map Prod.fst).Nodup →
      RuleSet.ofTable table = .ok rules →
        rules.names.map RuleName.key = table.map Prod.fst ∧
        List.Forall₂ EntryForm table rules.entries ∧
        ∀ entry ∈ table, ∀ rule setting, EntryForm entry (rule, setting) →
        rules.get? rule = some setting) ∧
    (∀ rules : RuleSet, (∀ e ∈ rules.entries, e.2.value.kind = e.1.valueKind) →
      (∀ e ∈ rules.entries, ∀ n, e.2.value = .length n → n < 2 ^ 63) →
        let table := rules.entries.map RuleEntry.toToml
        (table.map Prod.fst).Nodup ∧ Toml.Fitting table ∧ RuleSet.ofTable table = .ok rules) := by
  refine ⟨exists_ofTable_eq_ok_iff, fun _ _ _ h g => h.unique g, ?_, ?_⟩
  · intro table rules nodup read
    have forms := forms_of_ofTable nodup read
    refine ⟨(keys_of_forms forms).symm, forms, ?_⟩
    intro entry mem rule setting form
    obtain ⟨e, declared, found⟩ := exists_mem_of_forms forms mem
    obtain rfl := form.unique found
    exact get?_eq_some_iff.2 declared
  · intro rules fits small table
    refine ⟨?_, ?_, ?_⟩
    · rw [keys_toToml]
      exact rules.nodup.map fun _ _ => RuleName.key_injective
    · intro entry mem
      obtain ⟨e, declared, rfl⟩ := List.mem_map.1 mem
      exact toToml_fitting (small e declared)
    · rw [ofTable_toToml fits, ofList_entries]

end CommitLint
