import CommitLint.Proofs.ConfigSearch
import CommitLint.Proofs.EntryFaults
import CommitLint.Proofs.Outcome
import Mathlib

/-!
# Faults of configurations

A document that has the fields of a configuration, and still is none, is told by one error. The
rules are looked at before the patterns, and among the rules and among the patterns the first with a
fault is the one told, whatever stands behind it.

* `ofFields_eq_error_iff` — the error is the fault of the first rule, or of the first pattern if no
  rule has one;
* `exists_fault_iff` — there is one just when some rule or some pattern has a fault;
* `ofFields_of_agreeUpToFault` — what stands behind a fault does not count;
* `rules_of_layout` — the rules of a document stand in the order of its lines;
* `first_fault_reported` — what a document with a fault comes to, and each run with it.
-/

namespace CommitLint

open Toml (Value PlainLine charsOf entriesOf)

/-! ### Whether there is a first fault -/

/-- When what is not sound has a fault, there is a first fault just when not all is sound. -/
theorem exists_firstFault_iff {ε α : Type} {sound : α → Prop} {fault : α → ε → Prop}
    (faulty : ∀ x, (∃ e, fault x e) ↔ ¬ sound x) (xs : List α) :
    (∃ e, FirstFault sound fault xs e) ↔ ∃ x ∈ xs, ¬ sound x := by
  induction xs with
  | nil => simp [not_firstFault_nil]
  | cons x xs ih =>
    simp only [firstFault_cons_iff, exists_or, faulty, exists_and_left, ih,
      List.exists_mem_cons_iff]
    tauto

namespace Config

/-! ### Faults of patterns -/

/-- What is wrong with a pattern of messages to be skipped. -/
def PatternFault (text : String) (e : ConfigError) : Prop :=
  ∃ cause, Pattern.ofText text = .error cause ∧
    e = .invalidValue "ignores" ("'" ++ text ++ "': " ++ patternFault cause)

theorem ignorePattern_eq_error_iff {text : String} {e : ConfigError} :
    ignorePattern text = .error e ↔ PatternFault text e := by
  rw [ignorePattern, PatternFault]
  cases Pattern.ofText text <;> simp [eq_comm]

theorem exists_ignorePattern_iff (text : String) :
    (∃ ignore, ignorePattern text = .ok ignore) ↔ ∃ p, Pattern.ofText text = .ok p := by
  rw [ignorePattern]
  cases Pattern.ofText text <;> simp

theorem exists_patternFault_iff (text : String) :
    (∃ e, PatternFault text e) ↔ ¬ ∃ p, Pattern.ofText text = .ok p := by
  simp only [PatternFault]
  cases Pattern.ofText text <;> simp

theorem mapM_ignorePattern_eq_error_iff {texts : List String} {e : ConfigError} :
    texts.mapM ignorePattern = .error e ↔
      FirstFault (fun text => ∃ p, Pattern.ofText text = .ok p) PatternFault texts e := by
  rw [mapM_eq_error_iff]
  exact firstFault_congr exists_ignorePattern_iff (fun text e => ignorePattern_eq_error_iff) texts e

/-! ### Faults of fields -/

/-- Whether each entry that should stand for a rule is a form of one. Without any the standard rules
hold. -/
def Fields.RulesSound (fields : Fields) : Prop :=
  ∀ table ∈ fields.rules, ∀ entry ∈ table, ∃ r, EntryForm entry r

/-- What is wrong with the fields of a configuration. The patterns count only when all rules are
sound. -/
inductive Fields.Fault (fields : Fields) : ConfigError → Prop
  /-- An entry is no rule. The first one that is none counts. -/
  | rule {table : Toml.Table} {e : ConfigError} : fields.rules = some table →
    FirstFault (fun entry => ∃ r, EntryForm entry r) EntryFault table e → Fault fields e
  /-- A text is no pattern. The first one that is none counts. -/
  | pattern {e : ConfigError} : fields.RulesSound →
    FirstFault (fun text => ∃ p, Pattern.ofText text = .ok p) PatternFault fields.ignores e →
    Fault fields e

def Fields.ruleSet (fields : Fields) : Except ConfigError RuleSet :=
  match fields.rules with
  | some entries => RuleSet.ofTable entries
  | none => .ok standard.rules

theorem ofFields_eq (fields : Fields) :
    ofFields fields = fields.ruleSet >>= fun rules =>
      (fields.ignores.mapM ignorePattern).map fun ignores =>
      ⟨rules, fields.defaultIgnores.getD standard.defaultIgnores, ignores⟩ := by
  have last : ∀ rules, (do
      let ignores ← fields.ignores.mapM ignorePattern
      return (⟨rules, fields.defaultIgnores.getD standard.defaultIgnores, ignores⟩ : Config))
        = (fields.ignores.mapM ignorePattern).map fun ignores =>
          ⟨rules, fields.defaultIgnores.getD standard.defaultIgnores, ignores⟩ := by
    intro rules
    cases fields.ignores.mapM ignorePattern <;> rfl
  simp only [ofFields, last, Fields.ruleSet]
  cases fields.rules <;> rfl

theorem ruleSet_eq_error_iff {fields : Fields} {e : ConfigError} :
    fields.ruleSet = .error e ↔ ∃ table, fields.rules = some table ∧
      FirstFault (fun entry => ∃ r, EntryForm entry r) EntryFault table e := by
  rw [Fields.ruleSet]
  cases fields.rules <;> simp [ofTable_eq_error_iff]

theorem exists_ruleSet_iff (fields : Fields) :
    (∃ rules, fields.ruleSet = .ok rules) ↔ fields.RulesSound := by
  rw [Fields.ruleSet, Fields.RulesSound]
  cases fields.rules <;> simp [exists_ofTable_eq_ok_iff]

/-- Fields are no configuration because of their fault. -/
theorem ofFields_eq_error_iff {fields : Fields} {e : ConfigError} :
    ofFields fields = .error e ↔ fields.Fault e := by
  simp only [ofFields_eq, bind_eq_error_iff, map_eq_error_iff, mapM_ignorePattern_eq_error_iff,
    exists_and_right,
    ruleSet_eq_error_iff, exists_ruleSet_iff]
  constructor
  · rintro (⟨table, there, first⟩ | ⟨sound, first⟩)
    · exact .rule there first
    · exact .pattern sound first
  · rintro (⟨there, first⟩ | ⟨sound, first⟩)
    · exact .inl ⟨_, there, first⟩
    · exact .inr ⟨sound, first⟩

/-- Fields have a fault just when some rule or some pattern has one. -/
theorem exists_fault_iff (fields : Fields) :
    (∃ e, fields.Fault e) ↔ (∃ table ∈ fields.rules, ∃ entry ∈ table, ¬ ∃ r, EntryForm entry r) ∨
      ∃ text ∈ fields.ignores, ¬ ∃ p, Pattern.ofText text = .ok p := by
  constructor
  · rintro ⟨e, ⟨there, first⟩ | ⟨-, first⟩⟩
    · exact .inl ⟨_, there, (exists_firstFault_iff exists_entryFault_iff _).1 ⟨e, first⟩⟩
    · exact .inr ((exists_firstFault_iff exists_patternFault_iff _).1 ⟨e, first⟩)
  · intro faulty
    by_cases sound : fields.RulesSound
    · rcases faulty with ⟨table, there, entry, mem, none⟩ | faulty
      · exact absurd (sound table there entry mem) none
      · obtain ⟨e, first⟩ := (exists_firstFault_iff exists_patternFault_iff _).2 faulty
        exact ⟨e, .pattern sound first⟩
    · simp only [Fields.RulesSound, not_forall, exists_prop] at sound
      obtain ⟨table, there, faulty⟩ := sound
      obtain ⟨e, first⟩ := (exists_firstFault_iff exists_entryFault_iff _).2 faulty
      exact ⟨e, .rule there first⟩

/-! ### What stands behind a fault -/

/-- Whether fields are the same up to something with a fault. Behind an entry with a fault there may
be other entries and other patterns, and behind a text that is no pattern other texts. -/
inductive Fields.AgreeUpToFault (fields other : Fields) : Prop
  | rule {before after after' : Toml.Table} {entry : String × Value} :
    fields.rules = some (before ++ entry :: after) →
    other.rules = some (before ++ entry :: after') →
    (¬ ∃ r, EntryForm entry r) → AgreeUpToFault fields other
  | pattern {before after after' : List String} {text : String} : fields.rules = other.rules →
    fields.ignores = before ++ text :: after → other.ignores = before ++ text :: after' →
    (¬ ∃ p, Pattern.ofText text = .ok p) → AgreeUpToFault fields other

theorem ofFields_of_agreeUpToFault {fields other : Fields} (agree : fields.AgreeUpToFault other) :
    ∃ e, ofFields fields = .error e ∧ ofFields other = .error e := by
  cases agree with
  | @rule before after after' entry rules rules' none =>
    obtain ⟨fault, found⟩ := (exists_entryFault_iff entry).2 none
    obtain ⟨e, first⟩ := exists_mapM_eq_error (ofTableEntry_eq_error_iff.2 found) before
    refine ⟨e, ?_, ?_⟩
    · simp only [ofFields_eq, Fields.ruleSet, rules, RuleSet.ofTable, first]
      rfl
    · simp only [ofFields_eq, Fields.ruleSet, rules', RuleSet.ofTable, first]
      rfl
  | @pattern before after after' text rules ignores ignores' none =>
    obtain ⟨fault, found⟩ := (exists_patternFault_iff text).2 none
    obtain ⟨e, first⟩ := exists_mapM_eq_error (ignorePattern_eq_error_iff.2 found) before
    have same : other.ruleSet = fields.ruleSet := by rw [Fields.ruleSet, Fields.ruleSet, rules]
    rw [ofFields_eq, ofFields_eq, same, ignores, ignores', first, first]
    cases fields.ruleSet with
    | error fault => exact ⟨fault, rfl, rfl⟩
    | ok rules => exact ⟨e, rfl, rfl⟩

/-! ### The order of the lines -/

/-- Whether lines can stand before and after the header of the rules: each says what it is meant to,
and no key stands twice. -/
structure RulesLayout (start lines : List PlainLine) : Prop where
  /-- Each line is read as it is written. -/
  sound : ∀ l ∈ start ++ lines, l.IsSound
  /-- There is no other header. -/
  noHeader : ∀ l ∈ start ++ lines, l.isHeader = false
  /-- No key stands twice before the header. -/
  startKeys : ((entriesOf start).map Prod.fst).Nodup
  /-- The rules are not among those keys. -/
  new : "rules" ∉ (entriesOf start).map Prod.fst
  /-- No rule stands twice. -/
  keys : ((entriesOf lines).map Prod.fst).Nodup

def rulesDocument (start lines : List PlainLine) : String :=
  String.ofList (charsOf (start ++ .header "rules" :: lines))

theorem settledEntries_eq_ok_iff {entries table : Toml.Table} :
    settledEntries entries = .ok table ↔
      List.Forall₂ (fun written entry => entry.1 = written.1 ∧ settled written.2 = .ok entry.2)
        entries table := by
  induction entries generalizing table with
  | nil =>
    rw [List.forall₂_nil_left_iff, settledEntries]
    simp [eq_comm]
  | cons entry entries ih =>
    obtain ⟨key, v⟩ := entry
    simp only [settledEntries, bind_eq_ok_iff, List.forall₂_cons_left_iff, ← ih]
    constructor
    · rintro ⟨w, first, others, rest, made⟩
      cases made
      exact ⟨(key, w), others, ⟨rfl, first⟩, rest, rfl⟩
    · rintro ⟨⟨_, w⟩, others, ⟨rfl, first⟩, rest, rfl⟩
      exact ⟨w, first, others, rest, rfl⟩

/-- The last entry of a document is the one for its field. -/
theorem rules_of_foldlM_concat {start fields : Fields} {entries : Toml.Table} {v : Value}
    (h : (entries ++ [("rules", v)]).foldlM Fields.add start = .ok fields) :
    ∃ rules, table v = .ok rules ∧ fields.rules = some rules := by
  rw [List.foldlM_append, bind_eq_ok_iff] at h
  obtain ⟨before, -, last⟩ := h
  rw [List.foldlM_cons, bind_eq_ok_iff] at last
  obtain ⟨after, added, made⟩ := last
  cases made
  have named : before.add ("rules", v) = (table v).map fun rules =>
      { before with rules := some rules } := by
    simp [Fields.add]
  rw [named, map_eq_ok_iff] at added
  obtain ⟨rules, read, rfl⟩ := added
  exact ⟨rules, read, rfl⟩

/-- The rules of a document stand in the order of its lines, each with what its line says. -/
theorem rules_of_layout {start lines : List PlainLine} {fields : Fields}
    (layout : RulesLayout start lines)
    (read : fieldsOf (rulesDocument start lines) = .ok fields) :
    ∃ table, fields.rules = some table ∧
      List.Forall₂ (fun written entry => entry.1 = written.1 ∧ settled written.2 = .ok entry.2)
        (entriesOf lines) table := by
  obtain ⟨startSound, sound⟩ := List.forall_mem_append.1 layout.sound
  obtain ⟨startPlain, plain⟩ := List.forall_mem_append.1 layout.noHeader
  have parsed :=
    Toml.parse_section startSound isBareKey_rules sound startPlain plain layout.startKeys layout.new
    layout.keys
  rw [fieldsOf, rulesDocument, parsed] at read
  obtain ⟨rules, settled, there⟩ := rules_of_foldlM_concat read
  exact ⟨rules, there, settledEntries_eq_ok_iff.1 settled⟩

theorem parse_of_fieldsOf {document : String} {fields : Fields}
    (read : fieldsOf document = .ok fields) :
    parse document = ofFields fields := by
  rw [parse, read]

end Config

/-- **The first fault is the one reported.** A document with the fields of a configuration is none
just when some entry of its rules is no form of a rule, or some text of its patterns is no pattern.
The error is then the fault of the first such entry, and only when there is no such entry that of
the first such text; what stands behind it may be anything else. The entries are looked at in the
order of the lines they are on. With an error there is no configuration, and each command that needs
one ends with exit code 2 and nothing done. -/
theorem first_fault_reported {document : String} {fields : Config.Fields}
    (read : Config.fieldsOf document = .ok fields) :
    ((∃ e, Config.parse document = .error e) ↔
      (∃ table ∈ fields.rules, ∃ entry ∈ table, ¬ ∃ r, EntryForm entry r) ∨
        ∃ text ∈ fields.ignores, ¬ ∃ p, Pattern.ofText text = .ok p) ∧
    (∀ e, Config.parse document = .error e ↔ fields.Fault e) ∧
    (∀ document' other, Config.fieldsOf document' = .ok other → fields.AgreeUpToFault other →
      ∃ e, Config.parse document = .error e ∧ Config.parse document' = .error e) ∧
    (∀ start lines, Config.RulesLayout start lines → document = Config.rulesDocument start lines →
      ∃ table, fields.rules = some table ∧
        List.Forall₂ (fun written entry => entry.1 = written.1 ∧
          Config.settled written.2 = .ok entry.2)
          (entriesOf lines) table) ∧
    ∀ e, fields.Fault e → (∀ config, Config.parse document ≠ .ok config) ∧
      (Ending.failed (.config e)).exitCode = 2 ∧
      ∀ (w : Workspace) (build : Build) (styled : Bool) (input : ByteArray) (i : Invocation),
        w.Uses i.config document → i.command.needsConfig →
          w.run build styled input i = (.failed (.config e), w) := by
  have reported : ∀ e, Config.parse document = .error e ↔ fields.Fault e := by
    intro e
    rw [Config.parse_of_fieldsOf read]
    exact Config.ofFields_eq_error_iff
  refine ⟨?_, reported, ?_, ?_, ?_⟩
  · simp only [reported]
    exact Config.exists_fault_iff fields
  · intro document' other read' agree
    rw [Config.parse_of_fieldsOf read, Config.parse_of_fieldsOf read']
    exact Config.ofFields_of_agreeUpToFault agree
  · rintro start lines layout rfl
    exact Config.rules_of_layout layout read
  · intro e fault
    have wrong := (reported e).2 fault
    refine ⟨fun config => by simp [wrong], rfl, ?_⟩
    intro w build styled input i uses needs
    exact run_of_stops (.config needs ((chosenConfig_of_uses uses).trans wrong))

/-- A document with a text that is no pattern, a rule with two faults, and a key that no rule
has. -/
def severalFaults : String :=
  "ignores = [\"(\"]\n\n[rules]\ntype-empty = [2, \"sometimes\", 5]\nwrong = 1\n"

def severalFields : Config.Fields where
  ignores := ["("]
  rules := some [("type-empty", .array [.integer 2, .string "sometimes", .integer 5]),
    ("wrong", .integer 1)]

/-- Of all its faults the applicability is the one that is told. -/
theorem first_fault_reported_several :
    Config.fieldsOf severalFaults = .ok severalFields ∧
      Config.parse severalFaults = .error (.invalidApplicability "type-empty" "\"sometimes\"") := by
  have read : Config.fieldsOf severalFaults = .ok severalFields := by cbv
  have none : ∀ a, ¬ ApplicabilityForm (some (.string "sometimes")) a := by
    intro a form
    generalize word : "sometimes" = text at form
    cases form
    cases a <;> exact absurd word (by decide)
  have shown : (Value.string "sometimes").shown = "\"sometimes\"" := by cbv
  have fault : SettingFault .typeEmpty (.array [.integer 2, .string "sometimes", .integer 5])
      (.invalidApplicability "type-empty" (Value.string "sometimes").shown) :=
        .applicability (.level .error) none
  rw [shown] at fault
  refine ⟨read, ((first_fault_reported read).2.1 _).2 (.rule rfl ?_)⟩
  exact ⟨[], _, _, rfl, by simp, .setting fault⟩

end CommitLint
