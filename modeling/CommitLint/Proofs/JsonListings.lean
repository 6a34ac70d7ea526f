import CommitLint.Proofs.JsonReading
import CommitLint.Proofs.Outcome
import Mathlib

/-!
# What a listing in JSON tells

A listing is an object, and so is each report, violation and rule in it. What each of them tells
under which key is said by `ToldBy`, and taken from it again by `ofJson?`: a text that is not set
has no key, and a value of a rule is known by its kind. So nothing is lost in a listing, whatever
the texts in it hold.

* `Report.ToldBy.ofJson?_eq`, `RuleEntry.ToldBy.ofJson?_eq` — what is told is taken back;
* `toldBy_reportJson`, `toldBy_ruleJson` — what is listed tells all there is;
* `listings_lossless` — what a check and a listing of rules write is read back.
-/

namespace CommitLint

/-! ### Parts of a value -/

namespace JsonValue

def text? : JsonValue → Option String
  | text s => some s
  | _ => none

def bool? : JsonValue → Option Bool
  | bool b => some b
  | _ => none

def list? : JsonValue → Option (List JsonValue)
  | list items => some items
  | _ => none

def field? (key : String) : JsonValue → Option JsonValue
  | object fields => (fields.find? fun field => field.1 = key).map Prod.snd
  | _ => none

/-- A text that may be left out. Under its key there is nothing but a text. -/
def optionalText? (key : String) (x : JsonValue) : Option (Option String) :=
  match x.field? key with
  | none => some none
  | some y => y.text?.map some

theorem optionalText?_eq {key : String} {x : JsonValue} {s : Option String}
    (told : x.field? key = s.map text) :
    x.optionalText? key = some s := by
  rw [optionalText?, told]
  cases s <;> rfl

end JsonValue

theorem mapM_of_forall₂ {α β : Type} {g : β → Option α} {as : List α} {bs : List β}
    (each : List.Forall₂ (fun a b => g b = some a) as bs) : bs.mapM g = some as := by
  induction each with
  | nil => rfl
  | cons first _ ih =>
    rw [List.mapM_cons, first, ih]
    rfl

theorem mapM_text? (items : List String) :
    (items.map JsonValue.text).mapM JsonValue.text? = some items := by
  apply mapM_of_forall₂
  rw [List.forall₂_map_right_iff]
  exact List.forall₂_same.2 fun _ _ => rfl

/-! ### Reports -/

/-- What the object of a violation tells. -/
structure Violation.ToldBy (v : Violation) (x : JsonValue) : Prop where
  rule : x.field? "rule" = some (.text v.rule.key)
  severity : x.field? "severity" = some (.text v.severity.name)
  message : x.field? "message" = some (.text v.message)
  /-- Without a suggestion there is no key. -/
  suggestion : x.field? "suggestion" = v.suggestion.map .text

/-- What the object of a report tells. -/
structure Report.ToldBy (r : Report) (x : JsonValue) : Prop where
  /-- Without a commit there is no key. -/
  commitSha : x.field? "commit_sha" = r.commitSha.map .text
  header : x.field? "header" = some (.text r.header)
  ignored : x.field? "ignored" = some (.bool r.ignored)
  violations : ∃ items, x.field? "violations" = some (.list items) ∧
  List.Forall₂ Violation.ToldBy r.violations items

def Violation.ofJson? (x : JsonValue) : Option Violation := do
  let rule ← RuleName.ofKey? (← (← x.field? "rule").text?)
  let severity ← Severity.ofName? (← (← x.field? "severity").text?)
  let message ← (← x.field? "message").text?
  let suggestion ← x.optionalText? "suggestion"
  return ⟨rule, severity, message, suggestion⟩

def Report.ofJson? (x : JsonValue) : Option Report := do
  let sha ← x.optionalText? "commit_sha"
  let header ← (← x.field? "header").text?
  let ignored ← (← x.field? "ignored").bool?
  let violations ← (← (← x.field? "violations").list?).mapM Violation.ofJson?
  return ⟨sha, header, ignored, violations⟩

def Report.allOfJson? (x : JsonValue) : Option (List Report) := do
  (← (← x.field? "reports").list?).mapM ofJson?

theorem Violation.ToldBy.ofJson?_eq {v : Violation} {x : JsonValue} (told : v.ToldBy x) :
    Violation.ofJson? x = some v := by
  have suggestion := JsonValue.optionalText?_eq told.suggestion
  simp only [Violation.ofJson?, told.rule, told.severity, told.message, suggestion,
    Option.bind_eq_bind,
    Option.bind_some, JsonValue.text?, RuleName.ofKey?_key, Severity.ofName?_name]
  rfl

theorem Report.ToldBy.ofJson?_eq {r : Report} {x : JsonValue} (told : r.ToldBy x) :
    Report.ofJson? x = some r := by
  obtain ⟨items, listed, each⟩ := told.violations
  have sha := JsonValue.optionalText?_eq told.commitSha
  have violations := mapM_of_forall₂ (each.imp fun _ _ => Violation.ToldBy.ofJson?_eq)
  simp only [Report.ofJson?, told.header, told.ignored, listed, sha, violations,
    Option.bind_eq_bind,
    Option.bind_some, JsonValue.text?, JsonValue.bool?, JsonValue.list?]
  rfl

theorem toldBy_violationJson (v : Violation) : v.ToldBy v.toJson := by
  constructor <;> cases suggestion : v.suggestion <;>
    simp [Violation.toJson, JsonValue.field?, suggestion]

theorem toldBy_reportJson (r : Report) : r.ToldBy r.toJson := by
  have each : List.Forall₂ Violation.ToldBy r.violations (r.violations.map Violation.toJson) := by
    rw [List.forall₂_map_right_iff]
    exact List.forall₂_same.2 fun v _ => toldBy_violationJson v
  constructor
  case violations =>
    refine ⟨_, ?_, each⟩
    cases sha : r.commitSha <;> simp [Report.toJson, JsonValue.field?, sha]
  all_goals
    cases sha : r.commitSha <;> simp [Report.toJson, JsonValue.field?, sha]

/-! ### Rules -/

/-- What the object of a rule tells. -/
structure RuleEntry.ToldBy (e : RuleEntry) (x : JsonValue) : Prop where
  rule : x.field? "rule" = some (.text e.1.key)
  severity : x.field? "severity" = some (.text e.2.severity.name)
  applicability : x.field? "applicability" = some (.text e.2.applicability.name)
  value : x.field? "value" = some (Listing.valueJson e.2.value)

/-- What the object of a configuration tells. -/
structure Config.ToldBy (config : Config) (x : JsonValue) : Prop where
  usual : x.field? "default_ignores" = some (.bool config.defaultIgnores)
  ignores : x.field? "ignores" = some (.texts (config.ignores.map (·.text)))
  rules : ∃ items, x.field? "rules" = some (.list items) ∧
  List.Forall₂ RuleEntry.ToldBy config.rules.entries items

/-- The value of a rule, whose kind is that of the value in JSON. -/
def RuleValue.ofJson? : JsonValue → Option RuleValue
  | .null => some .none
  | .number n => some (.length n)
  | .text s => some (.text s)
  | .list items => (items.mapM JsonValue.text?).map .list
  | .bool _ | .object _ => Option.none

def RuleEntry.ofJson? (x : JsonValue) : Option RuleEntry := do
  let rule ← RuleName.ofKey? (← (← x.field? "rule").text?)
  let severity ← Severity.ofName? (← (← x.field? "severity").text?)
  let applicability ← Applicability.ofName? (← (← x.field? "applicability").text?)
  let value ← RuleValue.ofJson? (← x.field? "value")
  return (rule, ⟨severity, applicability, value⟩)

/-- What is listed of a configuration. -/
structure ListedConfig where
  /-- Whether the usual messages of tools are skipped. -/
  defaultIgnores : Bool
  /-- The patterns as they were written. -/
  ignores : List String
  /-- The rules in order. -/
  rules : List RuleEntry

def Config.listed (config : Config) : ListedConfig :=
  ⟨config.defaultIgnores, config.ignores.map (·.text), config.rules.entries⟩

/-- What an object tells of a configuration. -/
def ListedConfig.ofJson? (x : JsonValue) : Option ListedConfig := do
  let usual ← (← x.field? "default_ignores").bool?
  let ignores ← (← (← x.field? "ignores").list?).mapM JsonValue.text?
  let rules ← (← (← x.field? "rules").list?).mapM RuleEntry.ofJson?
  return ⟨usual, ignores, rules⟩

/-- No two values of rules are listed alike. -/
theorem ofJson?_valueJson (v : RuleValue) : RuleValue.ofJson? (Listing.valueJson v) = some v := by
  cases v with
  | none => rfl
  | length n => rfl
  | text s => rfl
  | list items =>
    show ((items.map JsonValue.text).mapM JsonValue.text?).map RuleValue.list = _
    rw [mapM_text?]
    rfl

theorem RuleEntry.ToldBy.ofJson?_eq {e : RuleEntry} {x : JsonValue} (told : RuleEntry.ToldBy e x) :
    RuleEntry.ofJson? x = some e := by
  simp only [RuleEntry.ofJson?, told.rule, told.severity, told.applicability, told.value,
    Option.bind_eq_bind,
    Option.bind_some, JsonValue.text?, RuleName.ofKey?_key, Severity.ofName?_name,
      Applicability.ofName?_name,
    ofJson?_valueJson]
  rfl

theorem Config.ToldBy.ofJson?_eq {config : Config} {x : JsonValue} (told : config.ToldBy x) :
    ListedConfig.ofJson? x = some config.listed := by
  obtain ⟨items, listed, each⟩ := told.rules
  have ignores := mapM_text? (config.ignores.map (·.text))
  have rules := mapM_of_forall₂ (each.imp fun _ _ => RuleEntry.ToldBy.ofJson?_eq)
  simp only [ListedConfig.ofJson?, told.usual, told.ignores, listed, rules, Option.bind_eq_bind,
    Option.bind_some,
    JsonValue.bool?, JsonValue.list?, JsonValue.texts, ignores]
  rfl

theorem toldBy_ruleJson (e : RuleEntry) : RuleEntry.ToldBy e (Listing.ruleJson e) := by
  constructor <;> simp [Listing.ruleJson, JsonValue.field?]

/-! ### Listings -/

/-- What is listed is read back, with the line end after it. -/
theorem read_listed (x : JsonValue) : JsonValue.read (x.render ++ "\n") = some x := by
  refine JsonValue.read_append x rfl ?_
  intro c mem
  obtain rfl : '\n' = c := Option.some.inj mem
  rfl

theorem read_reportsJson (reports : List Report) :
    ∃ x items, JsonValue.read (Listing.reportsJson reports) = some x ∧
    x.field? "reports" = some (.list items) ∧
      List.Forall₂ Report.ToldBy reports items := by
  refine ⟨_, _, read_listed _, rfl, ?_⟩
  rw [List.forall₂_map_right_iff]
  exact List.forall₂_same.2 fun r _ => toldBy_reportJson r

theorem read_configJson (config : Config) :
    ∃ x, JsonValue.read (Listing.configJson config) = some x ∧ config.ToldBy x := by
  have each : List.Forall₂ RuleEntry.ToldBy config.rules.entries
      (config.rules.entries.map Listing.ruleJson) := by
    rw [List.forall₂_map_right_iff]
    exact List.forall₂_same.2 fun e _ => toldBy_ruleJson e
  exact ⟨_, read_listed _, rfl, rfl, _, rfl, each⟩

theorem allOfJson?_eq {reports : List Report} {x : JsonValue} {items : List JsonValue}
    (listed : x.field? "reports" = some (.list items))
    (each : List.Forall₂ Report.ToldBy reports items) :
    Report.allOfJson? x = some reports := by
  have all := mapM_of_forall₂ (each.imp fun _ _ => Report.ToldBy.ofJson?_eq)
  simp only [Report.allOfJson?, listed, Option.bind_eq_bind, Option.bind_some, JsonValue.list?, all]

theorem reportsJson_injective {reports others : List Report}
    (same : Listing.reportsJson reports = Listing.reportsJson others) : reports = others := by
  obtain ⟨x, items, read, listed, each⟩ := read_reportsJson reports
  obtain ⟨y, parts, readOther, listedOther, eachOther⟩ := read_reportsJson others
  rw [same] at read
  obtain rfl : x = y := Option.some.inj (read.symm.trans readOther)
  exact Option.some.inj ((allOfJson?_eq listed each).symm.trans
    (allOfJson?_eq listedOther eachOther))

/-- Configurations that are listed alike differ at most in how their patterns were understood. -/
theorem configJson_injective {config other : Config}
    (same : Listing.configJson config = Listing.configJson other) :
    config.listed = other.listed := by
  obtain ⟨x, read, told⟩ := read_configJson config
  obtain ⟨y, readOther, toldOther⟩ := read_configJson other
  rw [same] at read
  obtain rfl : x = y := Option.some.inj (read.symm.trans readOther)
  exact Option.some.inj (told.ofJson?_eq.symm.trans toldOther.ofJson?_eq)

/-! ### Runs -/

section Runs

variable {w : Workspace} {build : Build} {styled : Bool} {input : ByteArray} {i : Invocation}

theorem output_ofReports_json (json : i.format = some .json) (strict : Bool)
    (reports : List Report) :
    (Ending.ofReports i styled strict reports).output = Listing.reportsJson reports := by
  rw [Ending.ofReports, json, if_pos rfl]

/-- What a check writes in JSON does not depend on whether it is quiet. -/
theorem ofReports_quiet (json : i.format = some .json) (quiet strict : Bool)
    (reports : List Report) :
    Ending.ofReports { i with quiet := quiet } styled strict reports =
      .ofReports i styled strict reports := by
  simp only [Ending.ofReports, json, if_true]

theorem run_quiet (json : i.format = some .json) (quiet : Bool) :
    w.run build styled input { i with quiet := quiet } = w.run build styled input i := by
  have checks (a : CheckArguments) : w.check { i with quiet := quiet } styled input a =
      w.check i styled input a := by
    simp only [Workspace.check, ofReports_quiet json]
  simp only [Workspace.run, checks, Workspace.listRules]

/-- A run that lists rules writes them, and leaves the workspace as it is. -/
theorem run_rules {config : Config} (command : i.command = .rules)
    (loaded : w.chosenConfig i.config = .ok config) :
    w.run build styled input i =
      (.success (if i.format = some .json then Listing.configJson config
        else Listing.rulesText styled config.rules), w) := by
  rw [Workspace.run, command]
  simp only [Workspace.listRules, loaded]
  rfl

end Runs

/-- Nothing is lost in a listing in JSON: the value that the text is read as tells each report,
violation and rule in order, and what it tells is taken back from it. -/
theorem listings_lossless :
    (∀ (w : Workspace) (build : Build) (styled : Bool) (input : ByteArray) (i : Invocation),
      i.format = some .json →
      (∀ quiet, w.run build styled input { i with quiet := quiet } = w.run build styled input i) ∧
      (∀ a config reports, i.command = .check a → w.chosenConfig i.config = .ok config →
        w.reports input config a.source = .ok reports →
        (w.run build styled input i).1.output = Listing.reportsJson reports) ∧
      (∀ config, i.command = .rules → w.chosenConfig i.config = .ok config →
        (w.run build styled input i).1 = .success (Listing.configJson config)) ∧
      ∀ strict reports, (Ending.ofReports i styled strict reports).output =
        Listing.reportsJson reports) ∧
    (∀ reports, ∃ x items, JsonValue.read (Listing.reportsJson reports) = some x ∧
      x.field? "reports" = some (.list items) ∧ List.Forall₂ Report.ToldBy reports items ∧
      Report.allOfJson? x = some reports) ∧
    (∀ config, ∃ x, JsonValue.read (Listing.configJson config) = some x ∧ config.ToldBy x ∧
      ListedConfig.ofJson? x = some config.listed) ∧
    (∀ reports others, Listing.reportsJson reports = Listing.reportsJson others →
    reports = others) ∧
    ∀ config other, Listing.configJson config = Listing.configJson other →
      config.defaultIgnores = other.defaultIgnores ∧
      config.ignores.map (·.text) = other.ignores.map (·.text) ∧ config.rules = other.rules := by
  refine ⟨fun w build styled input i json => ⟨run_quiet json, ?_, ?_, ?_⟩, ?_, ?_, ?_, ?_⟩
  · intro a config reports command loaded obtained
    rw [run_check command loaded obtained]
    exact output_ofReports_json json a.strict reports
  · intro config command loaded
    rw [run_rules command loaded, if_pos json]
  · exact output_ofReports_json json
  · intro reports
    obtain ⟨x, items, read, listed, each⟩ := read_reportsJson reports
    exact ⟨x, items, read, listed, each, allOfJson?_eq listed each⟩
  · intro config
    obtain ⟨x, read, told⟩ := read_configJson config
    exact ⟨x, read, told, told.ofJson?_eq⟩
  · intro reports others same
    exact reportsJson_injective same
  · intro config other same
    have listed := configJson_injective same
    have rules : config.rules.entries = other.rules.entries := congrArg ListedConfig.rules listed
    exact ⟨congrArg ListedConfig.defaultIgnores listed, congrArg ListedConfig.ignores listed,
      RuleSet.ext_entries rules⟩

end CommitLint
