import CommitLint.CommandLine.Invocation
import CommitLint.Config.Basic
import CommitLint.History.Object
import CommitLint.JsonValue
import CommitLint.Report

/-!
# Listings

How reports and rules are written: as text for people, or as one JSON object whose keys stand in
alphabetical order.
-/

namespace CommitLint

/-! ### Reports -/

def Violation.toJson (v : Violation) : JsonValue :=
  .object
    ([("message", .text v.message), ("rule", .text v.rule.key), ("severity", .text v.severity.name)]
      ++ v.suggestion.toList.map fun advice => ("suggestion", .text advice))

def Report.toJson (r : Report) : JsonValue :=
  .object
    (r.commitSha.toList.map (fun sha => ("commit_sha", .text sha))
      ++ [("header", .text r.header), ("ignored", .bool r.ignored),
        ("violations", .list (r.violations.map Violation.toJson))])

namespace Listing

/-- The reports as JSON, and whether all are valid. -/
def reportsJson (reports : List Report) : String :=
  (JsonValue.object
    [("reports", .list (reports.map Report.toJson)),
      ("valid", .bool (reports.all (·.isValid)))]).render ++ "\n"

/-- The reports as text. Those without violations may be left out. -/
def reportsText (styled quiet : Bool) (reports : List Report) : String :=
  String.join ((reports.filter fun r => !(quiet && r.isEmpty)).map fun r =>
    (r.print? styled).getD "")

/-! ### Rules -/

/-- A text with blanks after it, up to a width. -/
def padded (width : Nat) (s : String) : String :=
  s ++ String.ofList (List.replicate (width - s.length) ' ')

/-- The line of a rule, without its style: name, severity, applicability and value in columns. -/
def ruleLine (e : RuleEntry) : String :=
  Text.trimEnd (padded 22 e.1.key ++ " " ++ padded 8 e.2.severity.name ++ " "
    ++ padded 7 e.2.applicability.name ++ " " ++ e.2.value.shown)

/-- The line of a rule. A rule that is off is dim. -/
def styledRuleLine (styled : Bool) (e : RuleEntry) : String :=
  if e.2.isEnabled then ruleLine e else (Terminal.dim (ruleLine e)).render styled

def rulesText (styled : Bool) (rules : RuleSet) : String :=
  if rules.isEmpty then "No rules configured\n"
  else String.join (rules.entries.map fun e => styledRuleLine styled e ++ "\n")

def valueJson : RuleValue → JsonValue
  | .none => .null
  | .length n => .number n
  | .text s => .text s
  | .list items => .texts items

def ruleJson (e : RuleEntry) : JsonValue :=
  .object
    [("applicability", .text e.2.applicability.name), ("rule", .text e.1.key),
      ("severity", .text e.2.severity.name), ("value", valueJson e.2.value)]

def configJson (config : Config) : String :=
  (JsonValue.object
    [("default_ignores", .bool config.defaultIgnores),
      ("ignores", .texts (config.ignores.map (·.text))),
      ("rules", .list (config.rules.entries.map ruleJson))]).render ++ "\n"

end Listing

/-! ### Citing commits -/

theorem Report.byteTake?_isSome (size : Nat) {cs : List Char} (single : ∀ c ∈ cs, c.utf8Size = 1) :
    (byteTake? size cs).isSome = true := by
  induction cs generalizing size with
  | nil => rfl
  | cons c cs ih =>
    rw [byteTake?, single c (List.mem_cons_self ..)]
    split
    · rfl
    · next positive =>
      rw [if_pos (Nat.one_le_iff_ne_zero.2 positive), Option.isSome_map]
      exact ih _ fun d mem => single d (List.mem_cons_of_mem _ mem)

theorem utf8Size_of_isIdDigit {c : Char} (h : isIdDigit c = true) : c.utf8Size = 1 := by
  have bound : c.val.toNat ≤ 127 := by
    simp only [isIdDigit, Bool.or_eq_true, Bool.and_eq_true, decide_eq_true_eq,
      Char.isDigit, Char.le_def,
      UInt32.le_iff_toNat_le] at h
    rcases h with ⟨_, h⟩ | ⟨_, h⟩
    · exact Nat.le_trans h (by decide)
    · exact Nat.le_trans h (by decide)
  have : c.val ≤ 127 := UInt32.le_iff_toNat_le.2 bound
  simp [Char.utf8Size, this]

/-- The report of a commit can always be printed. -/
theorem Report.print?_isSome_ofCommit (r : Report) (id : ObjectId) (styled : Bool) :
    ((r.ofCommit id.digits).print? styled).isSome = true := by
  have some := byteTake?_isSome shortShaSize fun c mem =>
    utf8Size_of_isIdDigit (List.all_eq_true.1 id.hex c mem)
  simp [print?, headline?, ofCommit, shortSha?, some]

end CommitLint
