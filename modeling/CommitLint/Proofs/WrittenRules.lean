import CommitLint.Config.Preset
import CommitLint.Config.Reader
import CommitLint.Proofs.PlainDocument
import Mathlib

/-!
# Written rules

A rule is written on a line of its own as its key and the array of its severity by number, its
applicability and its value. What is written so is read back.

* `setting_toToml` — a setting is read from the array that it is written as;
* `parse_written` — a configuration is read from its first lines and the lines of its rules;
* `parse_conventional`, `parse_standard` — the rules that the starter configurations set.
-/

namespace CommitLint

open Toml (PlainLine Reads IsBareKey isQuotable afterCommas charsOf entriesOf)

/-! ### Settings -/

def quotedText (s : String) : List Char := '"' :: s.toList ++ ['"']

/-- The part of an entry that holds a value, if there is one. -/
def RuleValue.toToml : RuleValue → List Toml.Value
  | none => []
  | length n => [.integer n]
  | text s => [.string s]
  | list items => [.array (items.map .string)]

def RuleValue.written : RuleValue → List (List Char)
  | none => []
  | length n => [Nat.toDigits 10 n]
  | text s => [quotedText s]
  | list [] => [['[', ']']]
  | list (s :: others) => ['[' :: (quotedText s ++ afterCommas (others.map quotedText) ++ [']'])]

/-- Whether a text can stand between quotes without escapes. -/
def isPlainText (s : String) : Bool := s.toList.all isQuotable

/-- Whether a value can be written without escapes. -/
def RuleValue.IsPlain : RuleValue → Prop
  | none => True
  | length n => n < 2 ^ 63
  | text s => isPlainText s = true
  | list items => items.all isPlainText = true

def Setting.toToml (setting : Setting) : Toml.Value :=
  .array (.integer setting.severity.level :: .string setting.applicability.name ::
    setting.value.toToml)

/-- The entry of a setting as it is written. -/
def Setting.written (setting : Setting) : List Char :=
  '[' :: (Nat.toDigits 10 setting.severity.level
    ++ afterCommas (quotedText setting.applicability.name :: setting.value.written) ++ [']'])

theorem reads_quotedText (depth : Nat) {s : String} (plain : isPlainText s = true) :
    Reads depth (.string s) (quotedText s) := by
  have reads := Toml.reads_string depth (List.all_eq_true.1 plain)
  rwa [String.ofList_toList] at reads

theorem reads_quotedTexts (depth : Nat) {items : List String}
    (plain : ∀ s ∈ items, isPlainText s = true) :
    List.Forall₂ (Reads depth) (items.map .string) (items.map quotedText) := by
  induction items with
  | nil => exact .nil
  | cons s items ih =>
    exact .cons (reads_quotedText depth (plain s List.mem_cons_self))
      (ih fun t mem => plain t (List.mem_cons_of_mem _ mem))

theorem reads_value (depth : Nat) {v : RuleValue} (plain : v.IsPlain) :
    List.Forall₂ (Reads (depth + 1)) v.toToml v.written := by
  cases v with
  | none => exact .nil
  | length n => exact .cons (Toml.reads_integer _ plain) .nil
  | text s => exact .cons (reads_quotedText _ plain) .nil
  | list items =>
    cases items with
    | nil => exact .cons (Toml.reads_array_nil depth) .nil
    | cons s others =>
      have all := List.all_eq_true.1 plain
      have first := reads_quotedText depth (all s List.mem_cons_self)
      have rest := reads_quotedTexts depth fun t mem => all t (List.mem_cons_of_mem s mem)
      exact .cons (Toml.reads_array first rest) .nil

theorem isPlainText_applicability (a : Applicability) : isPlainText a.name = true := by
  cases a with
  | always =>
    rw [isPlainText, Applicability.name, String.toList_ofList]
    rfl
  | never =>
    rw [isPlainText, Applicability.name, String.toList_ofList]
    rfl

theorem reads_setting (depth : Nat) {setting : Setting} (plain : setting.value.IsPlain) :
    Reads (depth + 2) setting.toToml setting.written := by
  have level : setting.severity.level < 2 ^ 63 := by
    cases setting.severity <;> decide
  exact Toml.reads_array (Toml.reads_integer _ level)
    (.cons (reads_quotedText _ (isPlainText_applicability _)) (reads_value depth plain))

/-! ### Reading back -/

theorem mapM_listItem (rule : RuleName) (items : List String) :
    (items.map Toml.Value.string).mapM (RuleEntry.listItem rule) = .ok items := by
  induction items with
  | nil => rfl
  | cons s items ih =>
    rw [List.map_cons, List.mapM_cons, ih]
    rfl

theorem value_toToml {rule : RuleName} {v : RuleValue} (fits : v.kind = rule.valueKind) :
    RuleEntry.value rule v.toToml.head? = .ok v := by
  cases v with
  | none =>
    simp [RuleEntry.value, RuleValue.toToml, ← fits, RuleValue.kind]
  | length n =>
    simp [RuleEntry.value, RuleValue.toToml, ← fits, RuleValue.kind]
  | text s =>
    simp [RuleEntry.value, RuleValue.toToml, ← fits, RuleValue.kind]
  | list items =>
    simp only [RuleEntry.value, RuleValue.toToml, ← fits, RuleValue.kind, List.head?_cons]
    rw [mapM_listItem]
    rfl

theorem length_toToml_le (v : RuleValue) : v.toToml.length ≤ 1 := by
  cases v <;> simp [RuleValue.toToml]

/-- A setting is read from the entry that it is written as, under each rule that takes its value. -/
theorem setting_toToml {rule : RuleName} {setting : Setting}
    (fits : setting.value.kind = rule.valueKind) :
    RuleEntry.setting rule setting.toToml = .ok setting := by
  obtain ⟨s, a, v⟩ := setting
  have severity : RuleEntry.severity rule (.integer s.level) = .ok s := by
    simp only [RuleEntry.severity, RuleEntry.severity?, Severity.ofLevel?_level]
  have applicability : RuleEntry.applicability rule (some (.string a.name)) = .ok a := by
    simp only [RuleEntry.applicability, RuleEntry.applicability?, Applicability.ofName?_name]
  have value := value_toToml fits
  have short := length_toToml_le v
  have second : (Toml.Value.string a.name :: v.toToml)[1]? = v.toToml.head? := by
    rw [List.getElem?_cons_succ, List.head?_eq_getElem?]
  rw [Setting.toToml, RuleEntry.setting, severity, List.head?_cons, applicability, second, value]
  show (if v.toToml.length + 1 + 1 > RuleEntry.maxParts then _ else Except.ok _) = _
  rw [if_neg (by simp only [RuleEntry.maxParts]; omega)]

def RuleEntry.toToml (e : RuleEntry) : String × Toml.Value := (e.1.key, e.2.toToml)

theorem ofTable_toToml {entries : List RuleEntry}
    (fits : ∀ e ∈ entries, e.2.value.kind = e.1.valueKind) :
    RuleSet.ofTable (entries.map RuleEntry.toToml) = .ok (RuleSet.ofList entries) := by
  have all : (entries.map RuleEntry.toToml).mapM RuleEntry.ofTableEntry = .ok entries := by
    induction entries with
    | nil => rfl
    | cons e entries ih =>
      have first : RuleEntry.ofTableEntry e.toToml = .ok e := by
        have setting := setting_toToml (fits e List.mem_cons_self)
        simp [RuleEntry.ofTableEntry, RuleEntry.toToml, RuleName.ofKey?_key, setting, Except.map]
      rw [List.map_cons, List.mapM_cons, first, ih fun f mem => fits f (List.mem_cons_of_mem _ mem)]
      rfl
  rw [RuleSet.ofTable, all]
  rfl

/-! ### Configurations -/

def ruleLine (e : RuleEntry) : PlainLine := .entry e.1.key e.2.toToml e.2.written

theorem isBareKey_key (rule : RuleName) : IsBareKey rule.key.toList := by
  cases rule <;>
  · rw [RuleName.key, String.toList_ofList]
    exact ⟨List.cons_ne_nil _ _, List.all_eq_true.1 rfl⟩

theorem isSound_ruleLine {e : RuleEntry} (plain : e.2.value.IsPlain) : (ruleLine e).IsSound :=
  ⟨isBareKey_key e.1, reads_setting 77 plain⟩

theorem entriesOf_ruleLines (entries : List RuleEntry) :
    entriesOf (entries.map ruleLine) = entries.map RuleEntry.toToml := by
  rw [entriesOf, List.filterMap_map, ← List.filterMap_eq_map]
  rfl

/-- What stands in the entry of a setting is no moment in disguise. -/
theorem settled_toToml (setting : Setting) :
    Config.settled setting.toToml = .ok setting.toToml := by
  have texts : ∀ items : List String,
      Config.settledItems (items.map Toml.Value.string) = .ok (items.map Toml.Value.string) := by
    intro items
    induction items with
    | nil => rfl
    | cons s items ih =>
      rw [List.map_cons, Config.settledItems, ih]
      rfl
  obtain ⟨s, a, v⟩ := setting
  cases v with
  | none => rfl
  | length n => rfl
  | text s => rfl
  | list items =>
    simp only [Setting.toToml, RuleValue.toToml, Config.settled, Config.settledItems, texts]
    rfl

theorem settledEntries_toToml (entries : List RuleEntry) :
    Config.settledEntries (entries.map RuleEntry.toToml) = .ok (entries.map RuleEntry.toToml) := by
  induction entries with
  | nil => rfl
  | cons e entries ih =>
    rw [List.map_cons, RuleEntry.toToml, Config.settledEntries, settled_toToml, ih]
    rfl

theorem isBareKey_rules : IsBareKey "rules".toList := by
  rw [String.toList_ofList]
  exact ⟨List.cons_ne_nil _ _, List.all_eq_true.1 rfl⟩

/-- A configuration is read from its first lines, which say nothing of patterns, and the lines of
its rules. -/
theorem parse_written {start : List PlainLine} {entries : List RuleEntry} {fields : Config.Fields}
    (sound : ∀ l ∈ start, l.IsSound) (noHeader : ∀ l ∈ start, l.isHeader = false)
    (startNodup : ((entriesOf start).map Prod.fst).Nodup)
    (new : "rules" ∉ (entriesOf start).map Prod.fst)
    (read : (entriesOf start).foldlM Config.Fields.add {} = .ok fields)
    (noPatterns : fields.ignores = [])
    (nodup : (entries.map Prod.fst).Nodup) (fits : ∀ e ∈ entries, e.2.value.kind = e.1.valueKind)
    (plain : ∀ e ∈ entries, e.2.value.IsPlain) :
    Config.parse (String.ofList (charsOf (start ++ .header "rules" :: entries.map ruleLine)))
      = .ok ⟨RuleSet.ofList entries, fields.defaultIgnores.getD true, []⟩ := by
  have lines : ∀ l ∈ entries.map ruleLine, l.IsSound := by
    intro l mem
    obtain ⟨e, declared, rfl⟩ := List.mem_map.1 mem
    exact isSound_ruleLine (plain e declared)
  have noHeaders : ∀ l ∈ entries.map ruleLine, l.isHeader = false := by
    intro l mem
    obtain ⟨e, _, rfl⟩ := List.mem_map.1 mem
    rfl
  have keys : ((entriesOf (entries.map ruleLine)).map Prod.fst).Nodup := by
    have same : (entries.map RuleEntry.toToml).map Prod.fst =
        (entries.map Prod.fst).map RuleName.key := by
      rw [List.map_map, List.map_map]
      rfl
    rw [entriesOf_ruleLines, same]
    exact nodup.map fun _ _ => RuleName.key_injective
  have table := Toml.parse_section sound isBareKey_rules lines noHeader noHeaders
    startNodup new keys
  have rules : Config.Fields.add fields ("rules", .table (entries.map RuleEntry.toToml))
      = .ok { fields with rules := some (entries.map RuleEntry.toToml) } := by
    simp [Config.Fields.add, Config.table, settledEntries_toToml, Except.map]
  have all : Config.fieldsOf (String.ofList
      (charsOf (start ++ .header "rules" :: entries.map ruleLine)))
      = .ok { fields with rules := some (entries.map RuleEntry.toToml) } := by
    rw [Config.fieldsOf, table, entriesOf_ruleLines]
    simp only [List.foldlM_append, read]
    show (Config.Fields.add fields ("rules", .table (entries.map RuleEntry.toToml)) >>= pure) = _
    rw [rules]
    rfl
  rw [Config.parse, all]
  simp only [Config.ofFields, ofTable_toToml fits, noPatterns]
  rfl

/-- The types that the second starter configuration lists. -/
def conventionalTypes : List String :=
  ["build", "chore", "ci", "docs", "feat", "fix", "perf", "refactor", "revert", "style", "test"]

/-- The rules that the second starter configuration sets. -/
def RuleSet.conventional : RuleSet :=
  ofList conventionalEntries
where
  /-- The rules with their settings. -/
  conventionalEntries : List RuleEntry :=
    [(.headerMaxLength, ⟨.error, .always, .length 72⟩),
     (.headerMinLength, ⟨.error, .always, .length 10⟩),
     (.signedOffBy, ⟨.error, .always, .text "Signed-off-by:"⟩),
     (.typeEnum, ⟨.error, .always, .list conventionalTypes⟩),
     (.typeEmpty, ⟨.error, .never, .none⟩),
     (.subjectEmpty, ⟨.error, .never, .none⟩),
     (.subjectFullStop, ⟨.error, .never, .text "."⟩),
     (.bodyLeadingBlank, ⟨.warning, .always, .none⟩),
     (.bodyMaxLineLength, ⟨.error, .always, .length 100⟩)]

/-- The first lines of the second starter configuration. -/
def conventionalStart : List PlainLine :=
  [.comment " cmlint configuration (conventional commits)",
   .entry "default-ignores" (.boolean true) ['t', 'r', 'u', 'e'],
   .blank]

/-- A starter configuration as lines with an end each. -/
theorem toList_text (preset : Preset) :
    preset.text.toList = preset.lines.flatMap fun l => l.toList ++ ['\n'] := by
  rw [Preset.text]
  simp [List.flatMap_map]

theorem text_conventional :
    Preset.conventional.text = String.ofList (charsOf
      (conventionalStart ++ .header "rules" ::
        RuleSet.conventional.conventionalEntries.map ruleLine)) := by
  apply String.toList_inj.1
  rw [toList_text, String.toList_ofList]
  unfold Preset.lines conventionalStart RuleSet.conventional.conventionalEntries conventionalTypes
  simp only [List.flatMap_cons, List.flatMap_nil, String.toList_append, List.cons_append,
    List.nil_append,
    List.map_cons, List.map_nil, charsOf, PlainLine.chars, ruleLine, Setting.written, RuleName.key,
    RuleValue.written, quotedText, Applicability.name, Severity.level, afterCommas]
  -- Every literal becomes the list of its characters, so that nothing is left but lists.
  repeat rw [String.toList_ofList]
  rfl

theorem isSound_conventionalStart : ∀ l ∈ conventionalStart, l.IsSound := by
  intro l mem
  simp only [conventionalStart, List.mem_cons, List.not_mem_nil, or_false] at mem
  rcases mem with rfl | rfl | rfl
  · show ∀ c ∈ " cmlint configuration (conventional commits)".toList, _
    rw [String.toList_ofList]
    exact List.all_eq_true.1 rfl
  · refine ⟨?_, Toml.reads_boolean _ true⟩
    rw [String.toList_ofList]
    exact ⟨List.cons_ne_nil _ _, List.all_eq_true.1 rfl⟩
  · trivial

theorem isPlain_conventional :
    ∀ e ∈ RuleSet.conventional.conventionalEntries, e.2.value.IsPlain := by
  have types : conventionalTypes.all isPlainText = true := by
    simp only [conventionalTypes, List.all_cons, isPlainText]
    repeat rw [String.toList_ofList]
    rfl
  have mark : isPlainText "Signed-off-by:" = true := by
    rw [isPlainText, String.toList_ofList]
    rfl
  have stop : isPlainText "." = true := by
    rw [isPlainText, String.toList_ofList]
    rfl
  have small : ∀ n ≤ 100, n < 2 ^ 63 := by omega
  simp only [RuleSet.conventional.conventionalEntries, List.forall_mem_cons,
    List.not_mem_nil, false_imp_iff,
    implies_true, and_true]
  exact ⟨small 72 (by decide), small 10 (by decide), mark, types, trivial, trivial, stop, trivial,
    small 100 (by decide)⟩

/-- The second starter configuration sets these rules, and skips the usual messages of tools. -/
theorem parse_conventional :
    Config.parse Preset.conventional.text = .ok ⟨RuleSet.conventional, true, []⟩ := by
  have fits : ∀ e ∈ RuleSet.conventional.conventionalEntries, e.2.value.kind = e.1.valueKind := by
    decide
  have nodup : (RuleSet.conventional.conventionalEntries.map Prod.fst).Nodup := by decide
  have entries : entriesOf conventionalStart = [("default-ignores", .boolean true)] := rfl
  rw [text_conventional]
  refine @parse_written _ _ { defaultIgnores := some true } isSound_conventionalStart (by decide)
    ?_ ?_ ?_ rfl nodup fits isPlain_conventional
  · rw [entries]
    simp
  · rw [entries]
    simp
  · rw [entries]
    rfl

/-- The rules of the first starter configuration with their settings. -/
def standardEntries : List RuleEntry :=
  [(.headerMaxLength, ⟨.error, .always, .length 72⟩),
   (.headerMinLength, ⟨.error, .always, .length 10⟩),
   (.signedOffBy, ⟨.error, .always, .text "Signed-off-by:"⟩)]

/-- The first lines of the first starter configuration. -/
def standardStart : List PlainLine :=
  [.comment " cmlint configuration",
   .comment " Author: Eshan Roy",
   .comment " SPDX-License-Identifier: MIT",
   .blank,
   .comment " Skip merge, revert, fixup! and squash! messages",
   .entry "default-ignores" (.boolean true) ['t', 'r', 'u', 'e'],
   .blank,
   .comment " Extra patterns; matching messages are not linted",
   .entry "ignores" (.array []) ['[', ']'],
   .blank,
   .comment " Each rule is [severity, applicability, value]",
   .comment "   severity:      0 = off, 1 = warning, 2 = error",
   .comment "   applicability: \"always\", or \"never\" to invert the rule"]

theorem text_standard :
    Preset.standard.text = String.ofList (charsOf
      (standardStart ++ .header "rules" :: standardEntries.map ruleLine)) := by
  apply String.toList_inj.1
  rw [toList_text, String.toList_ofList]
  unfold Preset.lines standardStart standardEntries
  simp only [List.flatMap_cons, List.flatMap_nil, List.cons_append, List.nil_append,
    List.map_cons, List.map_nil,
    charsOf, PlainLine.chars, ruleLine, Setting.written, RuleName.key,
      RuleValue.written, quotedText,
    Applicability.name, Severity.level, afterCommas]
  repeat rw [String.toList_ofList]
  rfl

theorem isSound_standardStart : ∀ l ∈ standardStart, l.IsSound := by
  have comments : standardStart.all fun l =>
      match l with
      | .comment text => text.toList.all Toml.isPlain
      | _ => true := by
    decide +kernel
  intro l mem
  have sound := List.all_eq_true.1 comments l mem
  cases l with
  | blank => trivial
  | comment text => exact List.all_eq_true.1 sound
  | header name => simp [standardStart] at mem
  | entry key v written =>
    simp only [standardStart, List.mem_cons, reduceCtorEq, PlainLine.entry.injEq,
      List.not_mem_nil, false_or,
      or_false] at mem
    rcases mem with ⟨rfl, rfl, rfl⟩ | ⟨rfl, rfl, rfl⟩
    · refine ⟨?_, Toml.reads_boolean _ true⟩
      rw [String.toList_ofList]
      exact ⟨List.cons_ne_nil _ _, List.all_eq_true.1 rfl⟩
    · refine ⟨?_, Toml.reads_array_nil _⟩
      rw [String.toList_ofList]
      exact ⟨List.cons_ne_nil _ _, List.all_eq_true.1 rfl⟩

theorem isPlain_standard : ∀ e ∈ standardEntries, e.2.value.IsPlain := by
  have mark : isPlainText "Signed-off-by:" = true := by decide +kernel
  have small : ∀ n ≤ 100, n < 2 ^ 63 := by omega
  simp only [standardEntries, List.forall_mem_cons, List.not_mem_nil, false_imp_iff,
    implies_true, and_true]
  exact ⟨small 72 (by decide), small 10 (by decide), mark⟩

/-- The first starter configuration is the standard one. -/
theorem parse_standard : Config.parse Preset.standard.text = .ok .standard := by
  have fits : ∀ e ∈ standardEntries, e.2.value.kind = e.1.valueKind := by decide
  have nodup : (standardEntries.map Prod.fst).Nodup := by decide
  have entries : entriesOf standardStart =
      [("default-ignores", .boolean true), ("ignores", .array [])] := rfl
  rw [text_standard]
  refine @parse_written _ _ { defaultIgnores := some true } isSound_standardStart (by decide)
    ?_ ?_ ?_ rfl nodup fits isPlain_standard
  · rw [entries]
    simp
  · rw [entries]
    simp
  · rw [entries]
    rfl

end CommitLint
