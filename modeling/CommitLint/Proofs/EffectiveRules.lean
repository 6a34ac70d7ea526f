import CommitLint.Proofs.EntryForms
import CommitLint.Proofs.Verdict
import Mathlib

/-!
# Effective rules

A rule whose value has not its shape would be passed over without a word. `evaluate?` tells this
from a rule that finds nothing wrong. No rule that comes from a configuration is passed over, and no
length that is configured stands for a bound that is not there.

* `findingOf_eq_join` — what a rule finds is what its evaluation finds, if there is one;
* `evaluate?_eq_none_iff` — a rule is passed over exactly when its value has not the shape it needs;
* `sound_of_parse` — the rules of a configuration have values of their shapes, and lengths below
  2⁶³;
* `effective_of_loaded` — every rule that is in force is evaluated.
-/

namespace CommitLint

/-! ### Evaluation -/

/-- What a rule finds wrong with a message, when its value can be had in the shape that the rule
needs. A rule that needs no value is always evaluated. -/
def evaluate? (rule : RuleName) (setting : Setting) (m : Message) : Option (Option Finding) :=
  let asked := setting.applicability
  let value := setting.value
  match rule with
  | .headerMaxLength => value.length?.map fun max => Finding.ofHeaderLength m.header 0 max asked
  | .headerMinLength => value.length?.map fun min =>
    Finding.ofHeaderLength m.header min Finding.maxLength asked
  | .signedOffBy => value.text?.map fun marker => Finding.ofSignOff m.body marker asked
  | .typeEnum => value.list?.map fun allowed => Finding.ofTypeList m.conventional allowed asked
  | .typeEmpty => some (Finding.ofTypeEmpty m.conventional asked)
  | .subjectEmpty => some (Finding.ofSubjectEmpty m.conventional asked)
  | .subjectFullStop => value.text?.map fun stop => Finding.ofFullStop m.conventional stop asked
  | .bodyLeadingBlank => some (Finding.ofLeadingBlank m.body asked)
  | .bodyMaxLineLength => value.length?.map fun max => Finding.ofBodyLines m.body max asked

/-- What a rule finds is what its evaluation finds, and nothing when there is none. -/
theorem findingOf_eq_join (rule : RuleName) (setting : Setting) (m : Message) :
    findingOf rule setting m = (evaluate? rule setting m).join := by
  obtain ⟨severity, asked, value⟩ := setting
  cases rule <;> cases value <;> rfl

/-- A rule is passed over exactly when it needs a value, and the one it has is of another shape. -/
theorem evaluate?_eq_none_iff (rule : RuleName) (setting : Setting) (m : Message) :
    evaluate? rule setting m = none ↔
    rule.valueKind ≠ .none ∧ setting.value.kind ≠ rule.valueKind := by
  obtain ⟨severity, asked, value⟩ := setting
  cases rule <;> cases value <;>
    simp [evaluate?, RuleName.valueKind, RuleValue.kind, RuleValue.length?, RuleValue.text?,
      RuleValue.list?]

theorem isSome_evaluate? {rule : RuleName} {setting : Setting} (m : Message)
    (shape : setting.value.kind = rule.valueKind) : (evaluate? rule setting m).isSome = true := by
  rw [← Option.ne_none_iff_isSome, ne_eq, evaluate?_eq_none_iff]
  exact fun other => other.2 shape

/-! ### Rules of a configuration -/

/-- The value of a rule has its shape, and is no length beyond those that can be written. -/
structure RuleEntry.Sound (e : RuleEntry) : Prop where
  /-- The value has the shape of the rule. -/
  shape : e.2.value.kind = e.1.valueKind
  /-- A length can be written. -/
  small : ∀ n, e.2.value = .length n → n < 2 ^ 63

theorem mem_of_mem_putEntry {entries : List RuleEntry} {e f : RuleEntry}
    (h : f ∈ RuleSet.putEntry entries e) :
    f = e ∨ f ∈ entries := by
  rw [RuleSet.putEntry] at h
  split at h
  · obtain ⟨old, mem, eq⟩ := List.mem_map.1 h
    split at eq
    · exact .inl eq.symm
    · exact .inr (eq ▸ mem)
  · rcases List.mem_append.1 h with mem | mem
    · exact .inr mem
    · exact .inl (List.mem_singleton.1 mem)

/-- A set of rules has no entries but those that were declared. -/
theorem mem_of_mem_ofList {entries : List RuleEntry} {e : RuleEntry}
    (h : e ∈ (RuleSet.ofList entries).entries) : e ∈ entries := by
  induction entries using List.reverseRecOn with
  | nil => exact h
  | append_singleton entries last ih =>
    rw [RuleSet.ofList, List.foldl_append] at h
    rcases mem_of_mem_putEntry h with rfl | mem
    · exact List.mem_append_right _ (List.mem_singleton_self _)
    · exact List.mem_append_left _ (ih mem)

/-- What is read from an entry whose integers fit is sound. -/
theorem sound_of_form {entry : String × Toml.Value} {e : RuleEntry} (form : EntryForm entry e)
    (fitting : entry.2.Fitting) : e.Sound := by
  obtain ⟨severity, applicability, value, short⟩ := form
  next rule first rest s a v =>
  refine ⟨value.kind_eq, fun n length => ?_⟩
  obtain rfl : v = .length n := length
  generalize third : rest[1]? = o at value
  generalize rule.valueKind = kind at value
  cases value with
  | length _ =>
    have inside : Toml.Value.integer n ∈ first :: rest :=
      List.mem_cons_of_mem _ (List.mem_of_getElem? third)
    have fits := (fitting.of_array _ inside).of_integer
    simp only [Toml.fits, Bool.and_eq_true, decide_eq_true_eq] at fits
    omega

theorem sound_of_ofTable {table : Toml.Table} {rules : RuleSet} (fitting : Toml.Fitting table)
    (h : RuleSet.ofTable table = .ok rules) : ∀ e ∈ rules.entries, e.Sound := by
  obtain ⟨entries, forms, rfl⟩ := ofTable_eq_ok_iff.1 h
  intro e mem
  have declared := mem_of_mem_ofList mem
  clear mem h
  induction forms with
  | nil => cases declared
  | @cons entry f table entries form _ ih =>
    rcases List.mem_cons.1 declared with rfl | declared
    · exact sound_of_form form (fitting entry List.mem_cons_self)
    · exact ih (fun other mem => fitting other (List.mem_cons_of_mem _ mem)) declared

/-! ### What a document says of rules -/

namespace Config

open Toml (Value)

theorem settledItems_fitting {items after : List Value}
    (each : ∀ v ∈ items, ∀ w, settled v = .ok w → w.Fitting) (h : settledItems items = .ok after) :
    ∀ v ∈ after, v.Fitting := by
  induction items generalizing after with
  | nil =>
    cases h
    simp
  | cons v items ih =>
    simp only [settledItems, bind_eq_ok_iff] at h
    obtain ⟨w, first, others, rest, made⟩ := h
    cases made
    exact List.forall_mem_cons.2 ⟨each v List.mem_cons_self w first,
      ih (fun u mem => each u (List.mem_cons_of_mem _ mem)) rest⟩

theorem settledEntries_fitting {table after : Toml.Table}
    (each : ∀ e ∈ table, ∀ w, settled e.2 = .ok w → w.Fitting)
    (h : settledEntries table = .ok after) :
    Toml.Fitting after := by
  induction table generalizing after with
  | nil =>
    cases h
    simp [Toml.Fitting]
  | cons e table ih =>
    simp only [settledEntries, bind_eq_ok_iff] at h
    obtain ⟨w, first, others, rest, made⟩ := h
    cases made
    exact List.forall_mem_cons.2 ⟨each e List.mem_cons_self w first,
      ih (fun f mem => each f (List.mem_cons_of_mem _ mem)) rest⟩

/-- Settling makes moments of some tables, and leaves all other values as they are. -/
theorem settled_fitting {v w : Value} (fitting : v.Fitting) (h : settled v = .ok w) :
    w.Fitting := by
  induction fitting generalizing w with
  | string s =>
    cases h
    exact .string s
  | integer fits =>
    cases h
    exact .integer fits
  | float x =>
    cases h
    exact .float x
  | boolean b =>
    cases h
    exact .boolean b
  | moment m =>
    cases h
    exact .moment m
  | @array items _ ih =>
    rw [settled, map_eq_ok_iff] at h
    obtain ⟨after, read, rfl⟩ := h
    exact .array (settledItems_fitting (fun v mem w => ih v mem) read)
  | @table entries _ ih =>
    -- The first key says whether the table is a moment in disguise.
    cases entries with
    | nil =>
      cases h
      exact .table (by simp)
    | cons first rest =>
      obtain ⟨key, v⟩ := first
      unfold settled at h
      split at h
      · split at h
        · split at h
          · cases h
            exact .moment _
          · cases h
        · cases h
      · simp only [bind_eq_ok_iff] at h
        obtain ⟨settledFirst, read, others, settledRest, made⟩ := h
        cases made
        exact .table (List.forall_mem_cons.2 ⟨ih (key, v) List.mem_cons_self read,
          settledEntries_fitting (fun e mem w => ih e (List.mem_cons_of_mem _ mem)) settledRest⟩)

theorem table_fitting {v : Value} {entries : Toml.Table} (fitting : v.Fitting)
    (h : table v = .ok entries) :
    Toml.Fitting entries := by
  unfold table at h
  split at h
  · exact settledEntries_fitting (fun e mem w => settled_fitting (fitting.of_table e mem)) h
  · cases h
    exact List.forall_mem_singleton.2 (.string _)
  · cases h

/-- What the fields of a document say of rules has integers that fit. -/
theorem rules_fitting_of_add {fields after : Fields} {entry : String × Value}
    (fitting : entry.2.Fitting)
    (start : ∀ table ∈ fields.rules, Toml.Fitting table) (h : fields.add entry = .ok after) :
    ∀ table ∈ after.rules, Toml.Fitting table := by
  unfold Fields.add at h
  split at h
  · obtain ⟨_, -, rfl⟩ := map_eq_ok_iff.1 h
    exact start
  · split at h
    · obtain ⟨_, -, rfl⟩ := map_eq_ok_iff.1 h
      exact start
    · split at h
      · obtain ⟨rules, read, rfl⟩ := map_eq_ok_iff.1 h
        intro table same
        obtain rfl := Option.some.inj same
        exact table_fitting fitting read
      · cases h

theorem rules_fitting_of_fieldsOf {document : String} {fields : Fields}
    (h : fieldsOf document = .ok fields) :
    ∀ table ∈ fields.rules, Toml.Fitting table := by
  unfold fieldsOf at h
  split at h
  · cases h
  · next entries parsed =>
    have fitting : Toml.Fitting entries := Toml.parse_fitting parsed
    have nothing : ∀ table ∈ ({} : Fields).rules, Toml.Fitting table := by simp
    -- The fields are gathered entry by entry, so that the first ones must be any.
    clear parsed
    generalize ({} : Fields) = start at h nothing
    induction entries generalizing start with
    | nil => exact Except.ok.inj h ▸ nothing
    | cons entry entries ih =>
      rw [List.foldlM_cons, bind_eq_ok_iff] at h
      obtain ⟨next, added, rest⟩ := h
      exact ih (fun e mem => fitting e (List.mem_cons_of_mem _ mem)) next rest
        (rules_fitting_of_add (fitting entry List.mem_cons_self) nothing added)

end Config

theorem sound_standard : ∀ e ∈ RuleSet.standard.entries, e.Sound := by
  intro e mem
  have cases : e ∈ [_, _, _] := mem
  simp only [List.mem_cons, List.not_mem_nil, or_false] at cases
  rcases cases with rfl | rfl | rfl
  · exact ⟨rfl, fun n same => by cases same; decide⟩
  · exact ⟨rfl, fun n same => by cases same; decide⟩
  · exact ⟨rfl, fun n same => by cases same⟩

/-- The rules of a configuration that is read are sound. -/
theorem sound_of_parse {document : String} {config : Config}
    (h : Config.parse document = .ok config) :
    ∀ e ∈ config.rules.entries, e.Sound := by
  unfold Config.parse at h
  split at h
  · next fields read =>
    unfold Config.ofFields at h
    dsimp only at h
    split at h
    · next table found =>
      obtain ⟨rules, ruled, h⟩ := bind_eq_ok_iff.1 h
      obtain ⟨ignores, -, made⟩ := bind_eq_ok_iff.1 h
      cases made
      exact sound_of_ofTable (Config.rules_fitting_of_fieldsOf read table found) ruled
    · obtain ⟨rules, ruled, h⟩ := bind_eq_ok_iff.1 h
      obtain ⟨ignores, -, made⟩ := bind_eq_ok_iff.1 h
      cases ruled
      cases made
      exact sound_standard
  · cases h

/-! ### Rules in force -/

/-- The rules that can be in force: those of a configuration that is read, and those that hold when
nothing is configured. -/
inductive RuleSet.Loaded : RuleSet → Prop
  | standard : Loaded .standard
  | parsed {document : String} {config : Config} : Config.parse document = .ok config →
    Loaded config.rules

theorem sound_of_loaded {rules : RuleSet} (h : rules.Loaded) : ∀ e ∈ rules.entries, e.Sound := by
  cases h with
  | standard => exact sound_standard
  | parsed read => exact sound_of_parse read

/-- What holds of a rule that is in force and of a message. -/
structure RuleEntry.Effective (e : RuleEntry) (m : Message) : Prop where
  /-- The rule is evaluated with its value, and what that finds is reported unless the rule is
  off. -/
  evaluated : ∃ found, evaluate? e.1 e.2 m = some found ∧
    (e.2.severity ≠ .off → checkRule e.1 e.2 m = found.map (·.toViolation e.1 e.2.severity))
  /-- A rule that is not off is broken exactly when it applies and what it says is not as asked. -/
  verdict : e.2.severity ≠ .off → ((checkRule e.1 e.2 m).isSome = true ↔
    e.1.AppliesTo m ∧ ¬ e.2.applicability.Asks (e.1.Holds e.2.value m))
  /-- The greatest length of a header is the one configured, and is told as such. -/
  longest : ∀ n, e.1 = .headerMaxLength → e.2.value = .length n →
    (findingOf e.1 e.2 m = none ↔ e.2.applicability.Asks (m.header.length ≤ n)) ∧
    ∀ finding, findingOf e.1 e.2 m = some finding →
      finding = .headerTooLong m.header.length n ∨ finding = .headerNotLonger m.header.length n
  /-- The least length of a header is the one configured, and is told as such. -/
  shortest : ∀ n, e.1 = .headerMinLength → e.2.value = .length n →
    (findingOf e.1 e.2 m = none ↔ e.2.applicability.Asks (n ≤ m.header.length)) ∧
    ∀ finding, findingOf e.1 e.2 m = some finding →
      finding = .headerTooShort m.header.length n ∨ finding = .headerNotShorter m.header.length n

theorem ne_maxLength {n : Nat} (small : n < 2 ^ 63) : n ≠ Finding.maxLength := by
  rw [Finding.maxLength]
  omega

section

variable {header : String} {min max n : Nat} {asked : Applicability} {f : Finding}

/-- A header that is not within the bounds is too short, whatever the upper bound, or else too
long. -/
theorem Finding.ofHeaderLength_always (found : ofHeaderLength header min max .always = some f) :
    (header.length < min ∧ f = headerTooShort header.length min) ∨
      (min ≤ header.length ∧ max < header.length ∧ max ≠ maxLength ∧
        f = headerTooLong header.length max) := by
  have outside : ¬ (min ≤ header.length ∧ (header.length ≤ max ∨ max = maxLength)) := by
    have some : ofHeaderLength header min max .always ≠ none := by simp [found]
    rwa [ne_eq, ofHeaderLength_eq_none_iff] at some
  unfold ofHeaderLength at found
  dsimp only at found
  split at found
  · cases found
  · obtain rfl := Option.some.inj found
    by_cases short : header.length < min
    · exact .inl ⟨short, if_pos short⟩
    · have enough : min ≤ header.length := Nat.not_lt.1 short
      have long : ¬ (header.length ≤ max ∨ max = maxLength) :=
        fun within => outside ⟨enough, within⟩
      rw [not_or] at long
      exact .inr ⟨enough, Nat.not_le.1 long.1, long.2, if_neg short⟩

/-- A header within the bounds, where none may be: an upper bound that bounds nothing is not told,
nor is a lower bound of zero beside another one. -/
theorem Finding.ofHeaderLength_never (found : ofHeaderLength header min max .never = some f) :
    min ≤ header.length ∧
      ((max = maxLength ∧ f = headerNotShorter header.length min) ∨
        (max ≠ maxLength ∧ header.length ≤ max ∧ min = 0 ∧ f = headerNotLonger header.length max) ∨
        (max ≠ maxLength ∧ header.length ≤ max ∧ min ≠ 0 ∧
          f = headerBetween header.length min max)) := by
  have within : min ≤ header.length ∧ (header.length ≤ max ∨ max = maxLength) := by
    have some : ofHeaderLength header min max .never ≠ none := by simp [found]
    rw [ne_eq, ofHeaderLength_eq_none_iff] at some
    exact not_not.1 some
  unfold ofHeaderLength at found
  dsimp only at found
  split at found
  · cases found
  · obtain rfl := Option.some.inj found
    refine ⟨within.1, ?_⟩
    by_cases unbounded : max = maxLength
    · exact .inl ⟨unbounded, if_pos unbounded⟩
    · have few : header.length ≤ max := within.2.resolve_right unbounded
      rw [if_neg unbounded]
      by_cases zero : min = 0
      · exact .inr (.inl ⟨unbounded, few, zero, if_pos zero⟩)
      · exact .inr (.inr ⟨unbounded, few, zero, if_neg zero⟩)

/-- A finding about a header that has an upper bound only is about this bound. -/
theorem ofHeaderLength_upper (bounded : n ≠ Finding.maxLength)
    (found : Finding.ofHeaderLength header 0 n asked = some f) :
    f = .headerTooLong header.length n ∨ f = .headerNotLonger header.length n := by
  cases asked with
  | always =>
    rcases Finding.ofHeaderLength_always found with ⟨short, -⟩ | ⟨-, -, -, same⟩
    · exact absurd short (Nat.not_lt_zero _)
    · exact .inl same
  | never =>
    obtain ⟨-, ⟨unbounded, -⟩ | ⟨-, -, -, same⟩ | ⟨-, -, notZero, -⟩⟩ :=
      Finding.ofHeaderLength_never found
    · exact absurd unbounded bounded
    · exact .inr same
    · exact absurd rfl notZero

/-- A finding about a header that has a lower bound only is about this bound. -/
theorem ofHeaderLength_lower (found : Finding.ofHeaderLength header n Finding.maxLength asked =
      some f) :
    f = .headerTooShort header.length n ∨ f = .headerNotShorter header.length n := by
  cases asked with
  | always =>
    rcases Finding.ofHeaderLength_always found with ⟨-, same⟩ | ⟨-, -, notMax, -⟩
    · exact .inl same
    · exact absurd rfl notMax
  | never =>
    obtain ⟨-, ⟨-, same⟩ | ⟨notMax, -⟩ | ⟨notMax, -⟩⟩ := Finding.ofHeaderLength_never found
    · exact .inr same
    · exact absurd rfl notMax
    · exact absurd rfl notMax

end

theorem RuleEntry.Sound.effective {e : RuleEntry} (sound : e.Sound) (m : Message) :
    e.Effective m := by
  obtain ⟨rule, severity, asked, value⟩ := e
  obtain ⟨found, evaluated⟩ := Option.isSome_iff_exists.1 (isSome_evaluate? m sound.shape)
  have same : findingOf rule ⟨severity, asked, value⟩ m = found := by
    rw [findingOf_eq_join, evaluated, Option.join_some]
  refine ⟨⟨found, evaluated, fun on => ?_⟩, isSome_checkRule_iff m sound.shape, ?_, ?_⟩
  · rw [checkRule, if_pos (by simpa [Setting.isEnabled] using on), same]
  · rintro n rfl rfl
    have bounded := ne_maxLength (sound.small n rfl)
    show (Finding.ofHeaderLength m.header 0 n asked = none ↔ _) ∧ _
    rw [Finding.ofHeaderLength_eq_none_iff]
    exact ⟨by simp [bounded], fun finding found => ofHeaderLength_upper bounded found⟩
  · rintro n rfl rfl
    show (Finding.ofHeaderLength m.header n Finding.maxLength asked = none ↔ _) ∧ _
    rw [Finding.ofHeaderLength_eq_none_iff]
    exact ⟨by simp, fun finding found => ofHeaderLength_lower found⟩

/-- **No rule that is in force is passed over.** Its value has its shape, and a length is at most
2⁶³ - 1 and not the one that stands for no bound. Of every message each rule is evaluated; what it
reports is told by whether it applies and what it says of the message, and a length of the header is
held against the bound that is configured and no other. -/
theorem effective_of_loaded {rules : RuleSet} (loaded : rules.Loaded) :
    ∀ e ∈ rules.entries, e.2.value.kind = e.1.valueKind ∧
      (∀ n, e.2.value = .length n → n ≤ 2 ^ 63 - 1 ∧ n ≠ Finding.maxLength) ∧
      ∀ m, e.Effective m := by
  intro e mem
  have sound : e.Sound := sound_of_loaded loaded e mem
  refine ⟨sound.shape, fun n length => ?_, sound.effective⟩
  have small := sound.small n length
  exact ⟨by omega, ne_maxLength small⟩

/-- The rule of the second starter configuration on the greatest length of a header. -/
def conventionalLongest : RuleEntry := (.headerMaxLength, ⟨.error, .always, .length 72⟩)

/-- This rule is evaluated of every message, against its bound. -/
theorem effective_conventional :
    conventionalLongest ∈ RuleSet.conventional.entries ∧ 72 ≤ 2 ^ 63 - 1 ∧ 72 ≠ Finding.maxLength ∧
      conventionalLongest.Effective (Message.parse "feat: add a thing") := by
  have mem : conventionalLongest ∈ RuleSet.conventional.entries := by decide
  obtain ⟨-, bounds, effective⟩ :=
    effective_of_loaded (.parsed parse_conventional) conventionalLongest mem
  exact ⟨mem, (bounds 72 rfl).1, (bounds 72 rfl).2, effective _⟩

end CommitLint
