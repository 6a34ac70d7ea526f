import CommitLint.Toml.Document
import Mathlib

/-!
# The integers of a document

A document is read into values whose integers all fit into sixty-four bits, however deep they stand
in arrays and tables and by whatever way a table came about.

* `Value.Fitting` — every integer in a value fits;
* `number_fitting`, `value_fitting` — what is read from the front of a text is fitting;
* `tableOf?_fitting` — tables are put together from what has been read, and from nothing else;
* `parse_fitting` — the table of a document is fitting.
-/

namespace CommitLint

/-! ### Repeated steps -/

namespace Text

/-- What a step comes to is a state of one kind or a result of another. -/
def Step.Holds {σ α : Type} (P : σ → Prop) (Q : α → Prop) : Step σ α → Prop
  | .more state => P state
  | .done result => Q result

/-- What every step keeps of a state, and gives when it is done, holds of the result. -/
theorem Reading.repeated_holds {σ α : Type} {step : σ → Reader (Step σ α)} {P : σ → Prop}
    {Q : α → Prop}
    (keeps : ∀ {state cs s rest}, P state → step state cs = some (s, rest) → s.Holds P Q)
    {state : σ} {cs rest : List Char} {result : α} (start : P state)
    (read : repeated step state cs = some (result, rest)) : Q result := by
  -- A step that is not the last leaves fewer characters, or nothing is read.
  induction size : cs.length using Nat.strong_induction_on generalizing state cs with
  | _ n ih =>
    rw [repeated] at read
    split at read
    · cases read
    · next found =>
      obtain ⟨rfl, -⟩ := Prod.mk.inj (Option.some.inj read)
      exact keeps start found
    · next found =>
      split at read
      · next shorter => exact ih _ (size ▸ shorter) (keeps start found) read rfl
      · cases read

end Text

namespace Toml

open Text

/-- Every integer in a value fits. -/
inductive Value.Fitting : Value → Prop
  | string (s : String) : Fitting (.string s)
  | integer {n : Int} : fits n = true → Fitting (.integer n)
  | float (x : Binary64) : Fitting (.float x)
  | boolean (b : Bool) : Fitting (.boolean b)
  | moment (m : Moment) : Fitting (.moment m)
  | array {items : List Value} : (∀ v ∈ items, Fitting v) → Fitting (.array items)
  | table {entries : Table} : (∀ e ∈ entries, Fitting e.2) → Fitting (.table entries)

/-- Every integer in a table fits. -/
def Fitting (table : Table) : Prop := ∀ e ∈ table, e.2.Fitting

theorem Value.Fitting.of_integer {n : Int} (h : Fitting (.integer n)) : fits n = true := by
  cases h with
  | integer fits => exact fits

theorem Value.Fitting.of_array {items : List Value} (h : Fitting (.array items)) :
    ∀ v ∈ items, v.Fitting := by
  cases h with
  | array all => exact all

theorem Value.Fitting.of_table {entries : Table} (h : Value.Fitting (.table entries)) :
    Toml.Fitting entries := by
  cases h with
  | table all => exact all

/-! ### Numbers -/

theorem integerOf?_fitting {negative : Bool} {base : Nat} {found : List Char} {v : Value}
    (h : integerOf? negative base found = some v) : v.Fitting := by
  simp only [integerOf?] at h
  generalize (if negative = true then _ else _ : Int) = n at h
  split at h
  · next small =>
    obtain rfl := Option.some.inj h
    exact .integer small
  · cases h

theorem inBase_fitting {base : Nat} {isDigit : Char → Bool} {cs rest : List Char} {v : Value}
    (h : integer.inBase base isDigit cs = some (v, rest)) : v.Fitting := by
  simp only [integer.inBase, Option.bind_eq_bind, Option.bind_eq_some_iff, Option.pure_def,
    Option.some.injEq,
    Prod.mk.injEq] at h
  obtain ⟨_, -, w, made, rfl, -⟩ := h
  exact integerOf?_fitting made

theorem integer_fitting {cs rest : List Char} {v : Value} (h : integer cs = some (v, rest)) :
    v.Fitting := by
  unfold integer at h
  split at h
  · exact inBase_fitting h
  · exact inBase_fitting h
  · exact inBase_fitting h
  · simp only [Option.bind_eq_bind, Option.bind_eq_some_iff, Option.pure_def, Option.some.injEq,
      Prod.mk.injEq] at h
    obtain ⟨_, -, w, made, rfl, -⟩ := h
    exact integerOf?_fitting made

theorem float_fitting {cs rest : List Char} {v : Value} (h : float cs = some (v, rest)) :
    v.Fitting := by
  unfold float at h
  simp only at h
  split at h
  · cases h
    exact .float _
  · cases h
    exact .float _
  · simp only [Option.bind_eq_bind, Option.bind_eq_some_iff] at h
    obtain ⟨_, -, _, -, h⟩ := h
    split at h
    · cases h
    · cases h
      exact .float _

/-- A number or a moment that is read is fitting. -/
theorem number_fitting {cs rest : List Char} {v : Value} (h : number cs = some (v, rest)) :
    v.Fitting := by
  unfold number at h
  split at h
  · cases h
    exact .moment _
  · rcases Option.or_eq_some_iff.1 h with h | ⟨-, h⟩
    · exact float_fitting h
    · exact integer_fitting h

theorem scalar_fitting {cs rest : List Char} {v : Value} (h : value.scalar cs = some (v, rest)) :
    v.Fitting := by
  unfold value.scalar at h
  split at h
  · cases h
    exact .boolean _
  · cases h
    exact .boolean _
  · exact float_fitting h
  · exact float_fitting h
  · obtain ⟨_, -, eq⟩ := Option.map_eq_some_iff.1 h
    cases eq
    exact .string _
  · obtain ⟨_, -, eq⟩ := Option.map_eq_some_iff.1 h
    cases eq
    exact .string _
  · exact number_fitting h

/-! ### Drafts -/

/-- Every integer in a draft fits. -/
inductive Draft.Fitting : Draft → Prop
  | value {v : Value} : v.Fitting → Fitting (.value v)
  | table {origin : Origin} {entries : Entries} : (∀ e ∈ entries, Fitting e.2) →
    Fitting (.table origin entries)
  | tables {elements : List Entries} : (∀ entries ∈ elements, ∀ e ∈ entries, Fitting e.2) →
    Fitting (.tables elements)

/-- Every integer in the entries of a draft fits. -/
def Entries.Fitting (entries : Entries) : Prop := ∀ e ∈ entries, e.2.Fitting

theorem Draft.Fitting.of_table {origin : Origin} {entries : Entries}
    (h : Fitting (.table origin entries)) :
    entries.Fitting := by
  cases h with
  | table all => exact all

theorem Draft.Fitting.of_tables {elements : List Entries} (h : Fitting (.tables elements)) :
    ∀ entries ∈ elements, entries.Fitting := by
  cases h with
  | tables all => exact all

theorem Entries.fitting_nil : Entries.Fitting [] := by simp [Entries.Fitting]

theorem finishEntries_eq_map (entries : Entries) :
    finishEntries entries = entries.map fun e => (e.1, e.2.finish) := by
  induction entries with
  | nil => rfl
  | cons e entries ih => rw [finishEntries, ih, List.map_cons]

theorem finishElements_eq_map (elements : List Entries) :
    finishElements elements = elements.map fun entries => .table (finishEntries entries) := by
  induction elements with
  | nil => rfl
  | cons entries elements ih => rw [finishElements, ih, List.map_cons]

theorem Draft.Fitting.finish {d : Draft} (h : d.Fitting) : d.finish.Fitting := by
  induction h with
  | value fitting => exact fitting
  | table _ ih =>
    rw [Draft.finish, finishEntries_eq_map]
    refine .table fun e mem => ?_
    obtain ⟨d, inside, rfl⟩ := List.mem_map.1 mem
    exact ih d inside
  | tables _ ih =>
    rw [Draft.finish, finishElements_eq_map]
    refine .array fun v mem => ?_
    obtain ⟨entries, inside, rfl⟩ := List.mem_map.1 mem
    rw [finishEntries_eq_map]
    refine .table fun e mem => ?_
    obtain ⟨d, within, rfl⟩ := List.mem_map.1 mem
    exact ih entries inside d within

theorem Entries.Fitting.finish {entries : Entries} (h : entries.Fitting) :
    Toml.Fitting (finishEntries entries) := by
  intro e mem
  rw [finishEntries_eq_map] at mem
  obtain ⟨d, inside, rfl⟩ := List.mem_map.1 mem
  exact (h d inside).finish

/-- A change under a key keeps entries fitting if it makes what is fitting from what is fitting. -/
theorem alter?_fitting {key : String} {change : Option Draft → Option Draft}
    {entries after : Entries}
    (keeps : ∀ {old d}, (∀ o ∈ old, o.Fitting) → change old = some d → d.Fitting)
    (start : entries.Fitting)
    (h : alter? key change entries = some after) : after.Fitting := by
  induction entries generalizing after with
  | nil =>
    obtain ⟨d, changed, rfl⟩ := Option.map_eq_some_iff.1 h
    intro e mem
    obtain rfl := List.mem_singleton.1 mem
    exact keeps (by simp) changed
  | cons e entries ih =>
    have rest : Entries.Fitting entries := fun f mem => start f (List.mem_cons_of_mem _ mem)
    have first : e.2.Fitting := start e List.mem_cons_self
    rw [alter?] at h
    split at h
    · obtain ⟨d, changed, rfl⟩ := Option.map_eq_some_iff.1 h
      intro f mem
      rcases List.mem_cons.1 mem with rfl | mem
      · exact keeps (by simpa using first) changed
      · exact rest f mem
    · obtain ⟨others, changed, rfl⟩ := Option.map_eq_some_iff.1 h
      intro f mem
      rcases List.mem_cons.1 mem with rfl | mem
      · exact first
      · exact ih rest changed f mem

theorem alterAt?_fitting {dotted : Bool} {change : Origin → Entries → Option Entries}
    {path : List String}
    {origin : Origin} {entries after : Entries}
    (keeps : ∀ {origin entries after}, Entries.Fitting entries →
    change origin entries = some after → after.Fitting)
    (start : entries.Fitting) (h : alterAt? dotted change path origin entries = some after) :
    after.Fitting := by
  induction path generalizing origin entries after with
  | nil => exact keeps start h
  | cons key path ih =>
    rw [alterAt?] at h
    refine alter?_fitting (fun {old d} fitting changed => ?_) start h
    -- The path goes on in a new table, in an open one, or in the last of several tables.
    split at changed
    · obtain ⟨inner, made, rfl⟩ := Option.map_eq_some_iff.1 changed
      exact .table (ih Entries.fitting_nil made)
    · next found inner =>
      have within : Entries.Fitting inner := (fitting _ rfl).of_table
      split at changed
      · cases changed
      · obtain ⟨filled, made, rfl⟩ := Option.map_eq_some_iff.1 changed
        exact .table (ih within made)
    · next elements =>
      have within : ∀ entries ∈ elements, Entries.Fitting entries := (fitting _ rfl).of_tables
      simp only [Option.bind_eq_bind, Option.bind_eq_some_iff, Option.pure_def, Option.some.injEq]
        at changed
      obtain ⟨last, found, filled, made, rfl⟩ := changed
      have filledFitting : filled.Fitting := ih (within last (List.mem_of_getLast? found)) made
      refine .tables fun entries mem => ?_
      rcases List.mem_append.1 mem with before | added
      · exact within entries (List.mem_of_mem_dropLast before)
      · obtain rfl := List.mem_singleton.1 added
        exact filledFitting
    · cases changed

theorem addNew?_fitting {key : String} {d : Draft} {entries after : Entries} (new : d.Fitting)
    (start : entries.Fitting) (h : addNew? key d entries = some after) : after.Fitting := by
  refine alter?_fitting (fun {old e} _ changed => ?_) start h
  split at changed
  · exact Option.some.inj changed ▸ new
  · cases changed

theorem assign?_fitting {entries after : Entries} {a : Assignment} (assigned : a.value.Fitting)
    (start : entries.Fitting) (h : assign? entries a = some after) : after.Fitting := by
  refine alterAt?_fitting (fun {origin inner filled} fitting changed => ?_) start h
  split at changed
  · cases changed
  · exact addNew?_fitting (.value assigned) fitting changed

theorem assignAll?_fitting {entries after : Entries} {assignments : List Assignment}
    (assigned : ∀ a ∈ assignments, a.value.Fitting) (start : entries.Fitting)
    (h : assignAll? entries assignments = some after) : after.Fitting := by
  induction assignments generalizing entries with
  | nil => exact Option.some.inj h ▸ start
  | cons a assignments ih =>
    simp only [assignAll?, List.foldlM_cons, Option.bind_eq_bind, Option.bind_eq_some_iff] at h
    obtain ⟨next, first, rest⟩ := h
    exact ih (fun b mem => assigned b (List.mem_cons_of_mem _ mem))
      (assign?_fitting (assigned a List.mem_cons_self) start first) rest

/-! ### Sections -/

def Section.assignments : Section → List Assignment
  | .table _ _ assignments => assignments
  | .element _ _ assignments => assignments

theorem takeOpen?_fitting {key : String} {entries inner others : Entries} (start : entries.Fitting)
    (h : takeOpen? key entries = some (inner, others)) : inner.Fitting ∧ others.Fitting := by
  unfold takeOpen? at h
  split at h
  · cases h
    exact ⟨Entries.fitting_nil, start⟩
  · next name inner found =>
    cases h
    have whole : Draft.Fitting (.table .ancestor inner) := start _ (List.mem_of_find?_eq_some found)
    exact ⟨whole.of_table, fun e mem => start e (List.mem_of_mem_filter mem)⟩
  · cases h

theorem addTo?_fitting {document after : Entries} {part : Section}
    (assigned : ∀ a ∈ part.assignments, a.value.Fitting) (start : document.Fitting)
    (h : part.addTo? document = some after) : after.Fitting := by
  cases part with
  | table path key assignments =>
    refine alterAt?_fitting (fun {origin parent filled} fitting changed => ?_) start h
    simp only [Option.bind_eq_bind, Option.bind_eq_some_iff] at changed
    obtain ⟨⟨inner, others⟩, taken, made, all, added⟩ := changed
    obtain ⟨innerFitting, othersFitting⟩ := takeOpen?_fitting fitting taken
    exact addNew?_fitting (.table (assignAll?_fitting assigned innerFitting all))
      othersFitting added
  | element path key assignments =>
    refine alterAt?_fitting (fun {origin parent filled} fitting changed => ?_) start h
    simp only [Option.bind_eq_bind, Option.bind_eq_some_iff] at changed
    obtain ⟨made, all, added⟩ := changed
    have madeFitting : made.Fitting := assignAll?_fitting assigned Entries.fitting_nil all
    refine alter?_fitting (fun {old d} oldFitting altered => ?_) fitting added
    split at altered
    · cases altered
      exact .tables fun entries mem => List.mem_singleton.1 mem ▸ madeFitting
    · next elements =>
      cases altered
      have within : ∀ entries ∈ elements, Entries.Fitting entries := (oldFitting _ rfl).of_tables
      refine .tables fun entries mem => ?_
      rcases List.mem_append.1 mem with before | added
      · exact within entries before
      · obtain rfl := List.mem_singleton.1 added
        exact madeFitting
    · cases altered

/-- Tables are put together from the values that were assigned. -/
theorem tableOf?_fitting {assignments : List Assignment} {sections : List Section} {table : Table}
    (assigned : ∀ a ∈ assignments, a.value.Fitting)
    (within : ∀ part ∈ sections, ∀ a ∈ part.assignments, a.value.Fitting)
    (h : tableOf? assignments sections = some table) : Fitting table := by
  simp only [tableOf?, Option.bind_eq_bind, Option.bind_eq_some_iff, Option.pure_def,
    Option.some.injEq] at h
  obtain ⟨start, first, document, rest, rfl⟩ := h
  have startFitting : start.Fitting := assignAll?_fitting assigned Entries.fitting_nil first
  -- From here on it does not matter where the first entries come from.
  clear first
  suffices document.Fitting from this.finish
  induction sections generalizing start with
  | nil => exact Option.some.inj rest ▸ startFitting
  | cons part sections ih =>
    simp only [List.foldlM_cons, Option.bind_eq_bind, Option.bind_eq_some_iff] at rest
    obtain ⟨next, added, rest⟩ := rest
    exact ih (fun other mem => within other (List.mem_cons_of_mem _ mem)) next rest
      (addTo?_fitting (within part List.mem_cons_self) startFitting added)

/-! ### Values -/

section

variable {read : Reader Value} (reads : ∀ {cs v rest}, read cs = some (v, rest) → v.Fitting)

include reads

theorem arrayStep_fitting {found : List Value} {cs rest : List Char}
    {s : Step (List Value) (List Value)}
    (start : ∀ v ∈ found, v.Fitting) (h : arrayStep read found cs = some (s, rest)) :
    s.Holds (∀ v ∈ ·, v.Fitting) (∀ v ∈ ·, v.Fitting) := by
  simp only [arrayStep, Option.bind_eq_bind, Option.bind_eq_some_iff] at h
  obtain ⟨front, -, h⟩ := h
  split at h
  · cases h
    exact fun v mem => start v (List.mem_reverse.1 mem)
  · obtain ⟨⟨item, left⟩, taken, h⟩ := Option.bind_eq_some_iff.1 h
    obtain ⟨after, -, h⟩ := Option.bind_eq_some_iff.1 h
    have all : ∀ v ∈ item :: found, v.Fitting := List.forall_mem_cons.2 ⟨reads taken, start⟩
    split at h
    · cases h
      exact all
    · cases h
      exact fun v mem => all v (List.mem_reverse.1 mem)
    · cases h

theorem arrayItems_fitting {cs rest : List Char} {items : List Value}
    (h : arrayItems read cs = some (items, rest)) : ∀ v ∈ items, v.Fitting :=
  Reading.repeated_holds (arrayStep_fitting reads) (by simp) h

theorem assignment_fitting {cs rest : List Char} {a : Assignment}
    (h : assignment read cs = some (a, rest)) :
    a.value.Fitting := by
  simp only [assignment, Option.bind_eq_bind, Option.bind_eq_some_iff, Option.pure_def,
    Option.some.injEq,
    Prod.mk.injEq] at h
  obtain ⟨_, -, _, -, _, taken, rfl, -⟩ := h
  exact reads taken

theorem inlineAssignments_fitting {cs rest : List Char} {assignments : List Assignment}
    (h : inlineAssignments read cs = some (assignments, rest)) :
    ∀ a ∈ assignments, a.value.Fitting := by
  unfold inlineAssignments at h
  split at h
  · cases h
    simp
  · refine Reading.repeated_holds (P := fun found : List Assignment => ∀ a ∈ found, a.value.Fitting)
      (Q := fun found : List Assignment => ∀ a ∈ found, a.value.Fitting) ?_ (by simp) h
    intro found cs s rest start step
    obtain ⟨⟨a, left⟩, taken, step⟩ := Option.bind_eq_some_iff.1 step
    have all : ∀ b ∈ a :: found, b.value.Fitting :=
      List.forall_mem_cons.2 ⟨assignment_fitting reads taken, start⟩
    dsimp only at step
    split at step
    · cases step
      exact all
    · cases step
      exact fun b mem => all b (List.mem_reverse.1 mem)
    · cases step

end

/-- A value that is read is fitting. -/
theorem value_fitting {depth : Nat} {cs rest : List Char} {v : Value}
    (h : value depth cs = some (v, rest)) :
    v.Fitting := by
  induction depth generalizing cs v rest with
  | zero => exact scalar_fitting h
  | succ depth ih =>
    unfold value at h
    split at h
    · obtain ⟨⟨items, left⟩, taken, eq⟩ := Option.map_eq_some_iff.1 h
      cases eq
      exact .array (arrayItems_fitting ih taken)
    · obtain ⟨⟨assignments, left⟩, taken, h⟩ := Option.bind_eq_some_iff.1 h
      obtain ⟨table, made, h⟩ := Option.bind_eq_some_iff.1 h
      cases h
      exact .table (tableOf?_fitting (inlineAssignments_fitting ih taken) (by simp) made)
    · exact scalar_fitting h

/-! ### Documents -/

/-- Every integer of a document fits, as far as it has been read. -/
structure Outline.Fitting (r : Outline) : Prop where
  /-- In the sections that are complete. -/
  sections : ∀ part ∈ r.sections, ∀ a ∈ part.assignments, a.value.Fitting
  /-- The current section becomes complete by its assignments. -/
  current : ∀ complete ∈ r.current, ∀ assignments, (complete assignments).assignments = assignments
  /-- Before the first header. -/
  start : ∀ a ∈ r.start, a.value.Fitting
  /-- In the current section. -/
  assignments : ∀ a ∈ r.assignments, a.value.Fitting

theorem Outline.Fitting.allSections {r : Outline} (h : r.Fitting) :
    ∀ part ∈ r.allSections, ∀ a ∈ part.assignments, a.value.Fitting := by
  rw [Outline.allSections]
  split
  · exact h.sections
  · next complete found =>
    refine List.forall_mem_cons.2 ⟨?_, h.sections⟩
    rw [h.current complete found]
    exact fun a mem => h.assignments a (List.mem_reverse.1 mem)

theorem Outline.Fitting.assign {r : Outline} (h : r.Fitting) {a : Assignment}
    (new : a.value.Fitting) :
    (r.assign a).Fitting := by
  rw [Outline.assign]
  split
  · exact ⟨h.sections, h.current, List.forall_mem_cons.2 ⟨new, h.start⟩, h.assignments⟩
  · exact ⟨h.sections, h.current, h.start, List.forall_mem_cons.2 ⟨new, h.assignments⟩⟩

theorem Outline.Fitting.open {r : Outline} (h : r.Fitting) {complete : List Assignment → Section}
    (closes : ∀ assignments, (complete assignments).assignments = assignments) :
    (r.open complete).Fitting :=
  ⟨h.allSections, fun _ same => Option.some.inj same ▸ closes, h.start, by simp [Outline.open]⟩

theorem lineStep_fitting {r : Outline} {cs rest : List Char} {s : Step Outline Outline}
    (start : r.Fitting)
    (h : lineStep r cs = some (s, rest)) : s.Holds Outline.Fitting Outline.Fitting := by
  unfold lineStep at h
  split at h
  · cases h
    exact start
  · obtain ⟨⟨⟨path, last⟩, left⟩, -, h⟩ := Option.bind_eq_some_iff.1 h
    obtain ⟨_, -, h⟩ := Option.bind_eq_some_iff.1 h
    obtain ⟨_, -, h⟩ := Option.bind_eq_some_iff.1 h
    cases h
    exact start.open fun _ => rfl
  · obtain ⟨⟨⟨path, last⟩, left⟩, -, h⟩ := Option.bind_eq_some_iff.1 h
    obtain ⟨_, -, h⟩ := Option.bind_eq_some_iff.1 h
    obtain ⟨_, -, h⟩ := Option.bind_eq_some_iff.1 h
    cases h
    exact start.open fun _ => rfl
  · split at h
    · cases h
      exact start
    · obtain ⟨⟨a, left⟩, taken, h⟩ := Option.bind_eq_some_iff.1 h
      obtain ⟨_, -, h⟩ := Option.bind_eq_some_iff.1 h
      cases h
      exact start.assign (assignment_fitting value_fitting taken)

/-- **The integers of a document** all fit. -/
theorem parse_fitting {document : String} {table : Table} (h : parse document = some table) :
    Fitting table := by
  obtain ⟨⟨r, rest⟩, read, h⟩ := Option.bind_eq_some_iff.1 h
  have nothing : Outline.Fitting {} := ⟨by simp, by simp, by simp, by simp⟩
  have all : r.Fitting := Reading.repeated_holds lineStep_fitting nothing read
  exact tableOf?_fitting (fun a mem => all.start a (List.mem_reverse.1 mem))
    (fun part mem => all.allSections part (List.mem_reverse.1 mem)) h

end Toml

end CommitLint
