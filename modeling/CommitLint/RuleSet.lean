import CommitLint.Rule

/-!
# Rule sets

A rule set holds rules with their settings in the order in which they were declared, each rule once.
A rule declared again keeps its place and takes the new setting (`names_put`, `get?_put`).
-/

namespace CommitLint

/-- A rule with its setting. -/
abbrev RuleEntry := RuleName × Setting

/-- Rules with their settings, each rule at most once. -/
structure RuleSet where
  /-- The entries in order. -/
  entries : List RuleEntry
  /-- No rule stands twice. -/
  nodup : (entries.map Prod.fst).Nodup
  deriving DecidableEq

namespace RuleSet

/-- Entries after the setting of one rule: its own entry is replaced, or a new one stands last. -/
def putEntry (entries : List RuleEntry) (e : RuleEntry) : List RuleEntry :=
  if e.1 ∈ entries.map Prod.fst then entries.map fun old => if old.1 = e.1 then e else old
  else entries ++ [e]

theorem map_fst_putEntry (entries : List RuleEntry) (e : RuleEntry) :
    (putEntry entries e).map Prod.fst
      = if e.1 ∈ entries.map Prod.fst then entries.map Prod.fst else entries.map Prod.fst
        ++ [e.1] := by
  rw [putEntry]
  split
  · rw [List.map_map]
    apply List.map_congr_left
    intro old _
    by_cases h : old.1 = e.1 <;> simp [h]
  · simp

def empty : RuleSet := ⟨[], by simp⟩

/-- The set after the setting of one rule. -/
def put (rules : RuleSet) (e : RuleEntry) : RuleSet where
  entries := putEntry rules.entries e
  nodup := by
    rw [map_fst_putEntry]
    split
    · exact rules.nodup
    · next h =>
      rw [List.nodup_append]
      refine ⟨rules.nodup, by simp, ?_⟩
      intro a ha b hb hab
      rw [List.mem_singleton] at hb
      exact h (hb ▸ hab ▸ ha)

def ofList (entries : List RuleEntry) : RuleSet := entries.foldl put empty

def names (rules : RuleSet) : List RuleName := rules.entries.map Prod.fst

/-- The setting of a rule, if the set has it. -/
def get? (rules : RuleSet) (rule : RuleName) : Option Setting :=
  (rules.entries.find? fun e => e.1 = rule).map Prod.snd

/-- The entries whose rule is not switched off. -/
def enabled (rules : RuleSet) : List RuleEntry := rules.entries.filter fun e => e.2.isEnabled

def size (rules : RuleSet) : Nat := rules.entries.length

def isEmpty (rules : RuleSet) : Bool := rules.entries.isEmpty

/-- The rules that hold when nothing is configured: a header of 10 to 72 characters and a
sign-off. -/
def standard : RuleSet :=
  ofList
    [(.headerMaxLength, ⟨.error, .always, .length 72⟩),
     (.headerMinLength, ⟨.error, .always, .length 10⟩),
     (.signedOffBy, ⟨.error, .always, .text "Signed-off-by:"⟩)]

theorem names_put (rules : RuleSet) (e : RuleEntry) :
    (rules.put e).names = if e.1 ∈ rules.names then rules.names else rules.names ++ [e.1] :=
  map_fst_putEntry rules.entries e

theorem size_eq_length_names (rules : RuleSet) : rules.size = rules.names.length := by
  simp [size, names]

theorem ext_entries {rules others : RuleSet} (h : rules.entries = others.entries) :
    rules = others := by
  cases rules
  cases others
  simp_all

end RuleSet

end CommitLint
