import CommitLint.CommandLine.Reader
import Mathlib

/-!
# Written arguments

What stands on a command line, apart from how it is read. At each level there are phrases: arguments
that belong together, since they give a switch or a parameter with its value, or several of them
when letters share a hyphen. After two hyphens alone a check may have one more argument, which is a
file whatever it looks like.

* `Item`, `Given.ofItems` — what is given, one thing after the other;
* `Admitted` — what may be given at one level;
* `Given.Holds` — what has been given so far, though the last value may not be settled yet;
* `Phrase`, `Part` — what is written, with its arguments and what they give.
-/

namespace CommitLint.CommandLine

/-! ### What is given -/

/-- One thing that is given: that a switch is on, or the value of a parameter. -/
inductive Item
  /-- A switch is on. -/
  | on (s : Switch)
  /-- A parameter has a value. -/
  | value (p : Parameter) (x : String)
  deriving DecidableEq, Repr

namespace Item

def key : Item → Key
  | on s => .switch s
  | value p _ => .parameter p

def switch? : Item → Option Switch
  | on s => some s
  | value _ _ => none

/-- The parameter that has a value, with it. -/
def entry? : Item → Option (Parameter × String)
  | on _ => none
  | value p x => some (p, x)

/-- Whether a value is one that its parameter takes. -/
def admits : Item → Bool
  | on _ => true
  | value p x => p.admits x

def source? : Item → Option Source
  | value .file x => some (if x = "-" then .standardInput else .file x)
  | value .commit x => some (.commit x)
  | value .range x => some (.range x)
  | _ => none

end Item

/-- Whether items may be given at one level: none of them twice, and with values that may be
given. -/
structure Admitted (items : List Item) : Prop where
  /-- Nothing is given twice. -/
  once : (items.map Item.key).Nodup
  /-- Each value is one that its parameter takes. -/
  admits : ∀ item ∈ items, item.admits = true

instance (items : List Item) : Decidable (Admitted items) :=
  decidable_of_iff ((items.map Item.key).Nodup ∧ ∀ item ∈ items, item.admits = true)
    ⟨fun h => ⟨h.1, h.2⟩, fun h => ⟨h.once, h.admits⟩⟩

theorem Admitted.of_append {items others : List Item} (h : Admitted (items ++ others)) :
    Admitted items where
  once := by
    have once := h.once
    rw [List.map_append] at once
    exact once.of_append_left
  admits item mem := h.admits item (List.mem_append_left _ mem)

theorem Admitted.fresh {items : List Item} {item : Item} (h : Admitted (items ++ [item])) :
    item.key ∉ items.map Item.key := by
  have once := h.once
  rw [List.map_append, List.map_singleton, List.nodup_append] at once
  exact fun mem => once.2.2 _ mem _ List.mem_cons_self rfl

/-- What has been given once some items have been met. -/
def Given.ofItems (items : List Item) : Given :=
  ⟨items.filterMap Item.switch?, items.filterMap Item.entry?, none, false⟩

section

variable {items : List Item} {s : Switch} {p : Parameter} {x : String} {g : Given}

theorem mem_key_switch_iff : Key.switch s ∈ items.map Item.key ↔ Item.on s ∈ items := by
  rw [List.mem_map]
  constructor
  · rintro ⟨item, mem, key⟩
    cases item with
    | on t =>
      obtain rfl : t = s := Key.switch.inj key
      exact mem
    | value q y => cases key
  · exact fun mem => ⟨_, mem, rfl⟩

theorem mem_key_parameter_iff :
    Key.parameter p ∈ items.map Item.key ↔ ∃ x, Item.value p x ∈ items := by
  rw [List.mem_map]
  constructor
  · rintro ⟨item, mem, key⟩
    cases item with
    | on t => cases key
    | value q y =>
      obtain rfl : q = p := Key.parameter.inj key
      exact ⟨y, mem⟩
  · rintro ⟨x, mem⟩
    exact ⟨_, mem, rfl⟩

theorem mem_switches_ofItems : s ∈ (Given.ofItems items).switches ↔ Item.on s ∈ items := by
  rw [Given.ofItems, List.mem_filterMap]
  constructor
  · rintro ⟨item, mem, found⟩
    cases item with
    | on t =>
      obtain rfl : t = s := Option.some.inj found
      exact mem
    | value q y => cases found
  · exact fun mem => ⟨_, mem, rfl⟩

theorem mem_values_ofItems : (p, x) ∈ (Given.ofItems items).values ↔ Item.value p x ∈ items := by
  rw [Given.ofItems, List.mem_filterMap]
  constructor
  · rintro ⟨item, mem, found⟩
    cases item with
    | on t => cases found
    | value q y =>
      obtain ⟨rfl, rfl⟩ : q = p ∧ y = x := Prod.mk.inj (Option.some.inj found)
      exact mem
  · exact fun mem => ⟨_, mem, rfl⟩

theorem value?_ofItems_eq_none_iff :
    (Given.ofItems items).value? p = none ↔ Key.parameter p ∉ items.map Item.key := by
  rw [Given.value?, Option.map_eq_none_iff, List.find?_eq_none, mem_key_parameter_iff]
  constructor
  · rintro absent ⟨x, mem⟩
    exact absent (p, x) (mem_values_ofItems.2 mem) (decide_eq_true rfl)
  · rintro absent ⟨q, x⟩ mem same
    obtain rfl : q = p := of_decide_eq_true same
    exact absent ⟨x, mem_values_ofItems.1 mem⟩

theorem mem_of_value?_ofItems (found : (Given.ofItems items).value? p = some x) :
    Item.value p x ∈ items := by
  obtain ⟨⟨q, y⟩, entry, same⟩ := Option.map_eq_some_iff.1 found
  have key : q = p := by simpa using List.find?_some entry
  subst key
  obtain rfl : y = x := same
  exact mem_values_ofItems.1 (List.mem_of_find?_eq_some entry)

/-- The value of a parameter is the one that is given, if there are no two. -/
theorem value?_ofItems_eq_some_iff
    (once : ∀ y, Item.value p x ∈ items → Item.value p y ∈ items → x = y) :
    (Given.ofItems items).value? p = some x ↔ Item.value p x ∈ items := by
  refine ⟨mem_of_value?_ofItems, fun mem => ?_⟩
  cases found : (Given.ofItems items).value? p with
  | none => exact absurd (mem_key_parameter_iff.2 ⟨x, mem⟩) (value?_ofItems_eq_none_iff.1 found)
  | some y => rw [once y mem (mem_of_value?_ofItems found)]

theorem ofItems_concat_on : Given.ofItems (items ++ [.on s]) =
    { Given.ofItems items with switches := (Given.ofItems items).switches ++ [s] } := by
  simp [Given.ofItems, Item.switch?, Item.entry?]

theorem ofItems_concat_value : Given.ofItems (items ++ [.value p x]) =
    { Given.ofItems items with values := (Given.ofItems items).values ++ [(p, x)] } := by
  simp [Given.ofItems, Item.switch?, Item.entry?]

/-- A value is given to a parameter that has none, if it is one that the parameter takes. -/
theorem put_ofItems_eq_ok_iff : (Given.ofItems items).put p x = .ok g ↔
    (Key.parameter p ∉ items.map Item.key ∧ p.admits x = true) ∧
    g = Given.ofItems (items ++ [.value p x]) := by
  rw [Given.put, ofItems_concat_value, ← value?_ofItems_eq_none_iff]
  cases (Given.ofItems items).value? p with
  | some y => simp
  | none => cases p.admits x <;> simp [eq_comm]

end

/-! ### What has been given so far -/

/-- What has been given so far, when no parameter waits for its value any more: the last value may
still have to be settled. -/
structure Given.Holds (g : Given) (items : List Item) : Prop where
  /-- It is what the items give, once it is settled. -/
  settles : g.settle = .ok (.ofItems items)
  /-- No parameter waits. -/
  ready : g.awaiting? = none

section

variable {level : Level} {items : List Item} {s : Switch} {p : Parameter}
  {x : String} {g g' : Given}

theorem holds_ofItems (items : List Item) : (Given.ofItems items).Holds items := ⟨rfl, rfl⟩

theorem literal_put (h : g.put p x = .ok g') : g'.literal = g.literal := by
  rw [Given.put] at h
  split_ifs at h
  cases h
  rfl

theorem literal_settle (h : g.settle = .ok g') : g'.literal = g.literal := by
  rw [Given.settle] at h
  split at h
  · cases h
    rfl
  · cases h
  · have literal := literal_put h
    exact literal

/-- Hyphens still have their meaning. -/
theorem Given.Holds.literal (h : g.Holds items) : g.literal = false :=
  (literal_settle h.settles).symm

theorem Given.Holds.turnOn_eq_ok_iff (h : g.Holds items) :
    g.turnOn s = .ok g' ↔ Key.switch s ∉ items.map Item.key ∧ g' = .ofItems (items ++ [.on s]) := by
  rw [Given.turnOn, h.settles, ofItems_concat_on, mem_key_switch_iff, ← mem_switches_ofItems]
  by_cases on : s ∈ (Given.ofItems items).switches <;>
    simp [on, bind, Except.bind, throw, throwThe, MonadExceptOf.throw, pure, Except.pure, eq_comm]

theorem Given.Holds.assign_eq_ok_iff (h : g.Holds items) : g.assign p x = .ok g' ↔
    (Key.parameter p ∉ items.map Item.key ∧ p.admits x = true) ∧
    g' = .ofItems (items ++ [.value p x]) := by
  rw [Given.assign, h.settles, ← put_ofItems_eq_ok_iff]
  rfl

theorem Given.Holds.await (h : g.Holds items) (p : Parameter) :
    g.await p = .ok { Given.ofItems items with pending := some (p, none) } := by
  rw [Given.await, h.settles]
  rfl

/-- A value that has been met is settled if it may be given. -/
theorem settle_pending_eq_ok_iff :
    Given.settle { Given.ofItems items with pending := some (p, some x) } = .ok g ↔
    (Key.parameter p ∉ items.map Item.key ∧ p.admits x = true) ∧
    g = .ofItems (items ++ [.value p x]) := by
  rw [← put_ofItems_eq_ok_iff]
  rfl

theorem Admitted.admits_last (h : Admitted (items ++ [.value p x])) : p.admits x = true :=
  h.admits (.value p x) (by simp)

theorem Given.Holds.turnOn (holds : g.Holds items) (h : Admitted (items ++ [.on s])) :
    g.turnOn s = .ok (.ofItems (items ++ [.on s])) := holds.turnOn_eq_ok_iff.2 ⟨h.fresh, rfl⟩

theorem Given.Holds.assign (holds : g.Holds items) (h : Admitted (items ++ [.value p x])) :
    g.assign p x = .ok (.ofItems (items ++ [.value p x])) :=
  holds.assign_eq_ok_iff.2 ⟨⟨h.fresh, h.admits_last⟩, rfl⟩

theorem Admitted.holds_pending (h : Admitted (items ++ [.value p x])) :
    Given.Holds { Given.ofItems items with pending := some (p, some x) } (items ++ [.value p x]) :=
  ⟨settle_pending_eq_ok_iff.2 ⟨⟨h.fresh, h.admits_last⟩, rfl⟩, rfl⟩

/-- A file is given exactly when there is an item for it. -/
theorem Given.Holds.hasFile_iff (holds : g.Holds items) :
    g.hasFile = true ↔ Key.parameter .file ∈ items.map Item.key := by
  obtain ⟨settles, ready⟩ := holds
  rw [← not_iff_not, ← value?_ofItems_eq_none_iff, Bool.not_eq_true, Given.hasFile]
  rw [Given.settle] at settles
  split at settles
  · next none =>
    cases settles
    simp [none]
  · cases settles
  · next q y pending =>
    rw [Given.put] at settles
    split_ifs at settles with absent admits
    have values := congrArg Given.values (Except.ok.inj settles)
    simp only [Given.value?] at absent ⊢
    rw [pending, ← values, List.find?_append]
    by_cases file : q = .file
    · subst file
      simp
    · simp [file]

end

/-! ### Phrases -/

/-- Whether a text may be a value that is an argument of its own: it does not start with a hyphen,
unless it is nothing else. -/
def isValue (x : String) : Bool :=
  match x.toList with
  | '-' :: _ :: _ => false
  | _ => true

/-- How a value follows the name of its parameter. -/
inductive Joint
  /-- It is the next argument. -/
  | apart
  /-- It follows an equals sign. -/
  | equals
  /-- It follows at once. -/
  | joined
  deriving DecidableEq, Repr

namespace Joint

/-- The arguments that a name and a value make. -/
def texts (name x : String) : Joint → List String
  | apart => [name, x]
  | equals => [name ++ "=" ++ x]
  | joined => [name ++ x]

/-- Whether a value that follows so is taken as it stands. -/
def Keeps (x : String) : Joint → Prop
  | apart => isValue x = true
  | equals => True
  | joined => x ≠ "" ∧ x.toList.head? ≠ some '='

instance (x : String) (joint : Joint) : Decidable (joint.Keeps x) :=
  match joint with
  | apart => inferInstanceAs (Decidable (isValue x = true))
  | equals => inferInstanceAs (Decidable True)
  | joined => inferInstanceAs (Decidable (x ≠ "" ∧ x.toList.head? ≠ some '='))

end Joint

/-- The long name of a parameter, if it has one. -/
def Parameter.longName (p : Parameter) : String := p.long?.getD ""

def switchLetters (ss : List Switch) : String := String.ofList ('-' :: ss.filterMap Switch.short?)

/-- The letters of switches and that of a parameter after a hyphen. -/
def parameterLetters (ss : List Switch) (p : Parameter) : String :=
  String.ofList ('-' :: (ss.filterMap Switch.short? ++ p.short?.toList))

/-- Arguments that belong together. -/
inductive Phrase
  /-- The long name of a switch. -/
  | switch (s : Switch)
  /-- The long name of a parameter, with its value. -/
  | parameter (p : Parameter) (joint : Joint) (x : String)
  /-- The letters of switches after one hyphen. -/
  | letters (ss : List Switch)
  /-- The letters of switches and then that of a parameter after one hyphen, with its value. -/
  | lettersWith (ss : List Switch) (p : Parameter) (joint : Joint) (x : String)
  /-- A file. -/
  | file (x : String)
  deriving DecidableEq, Repr

namespace Phrase

def texts : Phrase → List String
  | switch s => ["--" ++ s.long]
  | parameter p joint x => joint.texts ("--" ++ p.longName) x
  | letters ss => [switchLetters ss]
  | lettersWith ss p joint x => joint.texts (parameterLetters ss p) x
  | file x => [x]

def items : Phrase → List Item
  | switch s => [.on s]
  | parameter p _ x => [.value p x]
  | letters ss => ss.map .on
  | lettersWith ss p _ x => ss.map .on ++ [.value p x]
  | file x => [.value .file x]

/-- Whether a phrase may stand at a level. -/
def Fits (level : Level) : Phrase → Prop
  | switch s => s ∈ level.switches
  | parameter p joint x => p ∈ level.parameters ∧ joint ≠ .joined ∧ joint.Keeps x
  | letters ss => ss ≠ [] ∧ ∀ s ∈ ss, s ∈ level.switches ∧ s.short?.isSome = true
  | lettersWith ss p joint x =>
    (∀ s ∈ ss, s ∈ level.switches ∧ s.short?.isSome = true) ∧
      p ∈ level.parameters ∧ p.short?.isSome = true ∧ joint.Keeps x
  | file x => level = .check ∧ isValue x = true

instance (level : Level) (phrase : Phrase) : Decidable (phrase.Fits level) :=
  match phrase with
  | switch s => inferInstanceAs (Decidable (s ∈ level.switches))
  | parameter p joint x =>
    inferInstanceAs (Decidable (p ∈ level.parameters ∧ joint ≠ .joined ∧ joint.Keeps x))
  | letters ss =>
    inferInstanceAs (Decidable (ss ≠ [] ∧ ∀ s ∈ ss, s ∈ level.switches ∧ s.short?.isSome = true))
  | lettersWith ss p joint x =>
    inferInstanceAs (Decidable ((∀ s ∈ ss, s ∈ level.switches ∧ s.short?.isSome = true) ∧
      p ∈ level.parameters ∧ p.short?.isSome = true ∧ joint.Keeps x))
  | file x => inferInstanceAs (Decidable (level = .check ∧ isValue x = true))

end Phrase

/-! ### Parts -/

/-- What follows the phrases of a level. -/
inductive Tail
  /-- Nothing. -/
  | nothing
  /-- Two hyphens. -/
  | hyphens
  /-- Two hyphens and a file, whatever it looks like. -/
  | file (x : String)
  deriving DecidableEq, Repr

namespace Tail

def texts : Tail → List String
  | nothing => []
  | hyphens => ["--"]
  | file x => ["--", x]

def items : Tail → List Item
  | nothing => []
  | hyphens => []
  | file x => [.value .file x]

/-- Whether it may stand at a level. -/
def Fits (level : Level) : Tail → Prop
  | nothing => True
  | hyphens => True
  | file _ => level = .check

instance (level : Level) (tail : Tail) : Decidable (tail.Fits level) :=
  match tail with
  | nothing => inferInstanceAs (Decidable True)
  | hyphens => inferInstanceAs (Decidable True)
  | file _ => inferInstanceAs (Decidable (level = .check))

end Tail

/-- What is written at a level. -/
structure Part where
  /-- The phrases. -/
  phrases : List Phrase
  /-- What follows them. -/
  tail : Tail
  deriving DecidableEq, Repr

namespace Part

def texts (part : Part) : List String := part.phrases.flatMap Phrase.texts ++ part.tail.texts

def items (part : Part) : List Item := part.phrases.flatMap Phrase.items ++ part.tail.items

/-- Whether a part may stand at a level. -/
structure Fits (level : Level) (part : Part) : Prop where
  /-- The phrases may stand there. -/
  phrases : ∀ phrase ∈ part.phrases, phrase.Fits level
  /-- So may what follows them. -/
  tail : part.tail.Fits level
  /-- Nothing is given twice, and values are among those that may be given. -/
  admitted : Admitted part.items

instance (level : Level) (part : Part) : Decidable (part.Fits level) :=
  decidable_of_iff ((∀ phrase ∈ part.phrases, phrase.Fits level) ∧ part.tail.Fits level ∧
    Admitted part.items)
    ⟨fun h => ⟨h.1, h.2.1, h.2.2⟩, fun h => ⟨h.phrases, h.tail, h.admitted⟩⟩

end Part

end CommitLint.CommandLine
