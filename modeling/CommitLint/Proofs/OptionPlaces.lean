import CommitLint.Proofs.CommandLines
import CommitLint.Workspace.Configuration
import Mathlib

/-!
# Places of options

Some options are known at every level, so that they may stand before the name of a command or after
it. Where they stand does not matter when none of them is given twice: each is taken out of its
phrase, which may be letters with others, and put among the phrases of the other level, and what is
asked for stays the same. The configuration file that is named at either level counts before the one
that the variable names.

* `Move` — an option is moved from one level to the other;
* `Move.step`, `step_of_moved` — what one move keeps, and what any number of them keeps;
* `places_immaterial` — what does not depend on the places of options.
-/

namespace CommitLint

namespace CommandLine

/-! ### Options of every level -/

/-- What may be given at every level. -/
def sharedKeys : List Key :=
  [.switch .debug, .switch .quiet, .parameter .format, .parameter .config]

/-- Whether an item may be given at every level. -/
def Item.IsShared (item : Item) : Prop := item.key ∈ sharedKeys

instance (item : Item) : Decidable item.IsShared :=
  inferInstanceAs (Decidable (item.key ∈ sharedKeys))

/-- Whether none of these is given twice. -/
def SharedOnce (items : List Item) : Prop := ∀ key ∈ sharedKeys, (items.map Item.key).count key ≤ 1

instance (items : List Item) : Decidable (SharedOnce items) :=
  inferInstanceAs (Decidable (∀ key ∈ sharedKeys, (items.map Item.key).count key ≤ 1))

/-- The value of a parameter, if an item gives it. -/
def Item.valueOf? (p : Parameter) : Item → Option String
  | on _ => none
  | value q x => if q = p then some x else none

/-- The configuration files that a line names, those given to the command first. -/
def Line.configs (line : Line) : List String :=
  (line.innerItems ++ line.outerItems).filterMap (Item.valueOf? .config)

/-! ### Moves -/

/-- What is left of a phrase when an item is taken out of it. -/
inductive Leaves : Item → Phrase → List Phrase → Prop
  /-- It has no other item. -/
  | nothing {item : Item} {phrase : Phrase} : phrase.items = [item] → Leaves item phrase []
  /-- It is a letter among others. -/
  | letter {ss ts : List Switch} (s : Switch) : ss ++ ts ≠ [] →
    Leaves (.on s) (.letters (ss ++ s :: ts)) [.letters (ss ++ ts)]
  /-- It is a letter before that of a parameter. -/
  | letterBefore (ss ts : List Switch) (s : Switch) (p : Parameter) (joint : Joint) (x : String) :
    Leaves (.on s) (.lettersWith (ss ++ s :: ts) p joint x) [.lettersWith (ss ++ ts) p joint x]
  /-- It is a parameter with its value after letters. -/
  | lastLetter {ss : List Switch} (p : Parameter) (joint : Joint) (x : String) : ss ≠ [] →
    Leaves (.value p x) (.lettersWith ss p joint x) [.letters ss]

/-- What is left of phrases when an item is taken out of one of them. -/
inductive Loses (item : Item) : List Phrase → List Phrase → Prop
  /-- It is taken out of a phrase. -/
  | of {phrase : Phrase} {left : List Phrase} (before after : List Phrase) :
    Leaves item phrase left →
    Loses item (before ++ phrase :: after) (before ++ left ++ after)

/-- What becomes of phrases when a phrase for an item is put among them, or before them all. -/
inductive Gains (level : Level) (item : Item) : List Phrase → List Phrase → Prop
  /-- It is put between some phrases. -/
  | of {phrase : Phrase} (before after : List Phrase) : phrase.Fits level → phrase.items = [item] →
    Gains level item (before ++ after) (before ++ phrase :: after)

/-- An option is moved across the name of a command. -/
inductive Move : Line → Line → Prop
  /-- From before the name to after it. -/
  | inward {item : Item} {before before' after after' : List Phrase} {name : String} {level : Level}
    {tail : Tail} :
    item.IsShared → Loses item before before' → Gains level item after after' →
    Move (.named before name level ⟨after, tail⟩) (.named before' name level ⟨after', tail⟩)
  /-- From after the name to before it. -/
  | outward {item : Item} {before before' after after' : List Phrase} {name : String}
    {level : Level} {tail : Tail} :
    item.IsShared → Loses item after after' → Gains .outer item before before' →
    Move (.named before name level ⟨after, tail⟩) (.named before' name level ⟨after', tail⟩)

section

variable {level : Level} {item : Item} {phrase : Phrase} {left phrases phrases' : List Phrase}

theorem Leaves.perm (leaves : Leaves item phrase left) :
    phrase.items.Perm (item :: left.flatMap Phrase.items) := by
  cases leaves with
  | nothing items => rw [items, List.flatMap_nil]
  | letter s some => simp [Phrase.items]
  | letterBefore ss ts s p joint x => simp [Phrase.items]
  | lastLetter p joint x some => simp [Phrase.items, List.perm_append_singleton]

theorem Leaves.fits (leaves : Leaves item phrase left) (fits : phrase.Fits level) :
    ∀ other ∈ left, other.Fits level := by
  have other : ∀ {ss ts : List Switch} {s t : Switch}, t ∈ ss ++ ts → t ∈ ss ++ s :: ts :=
    fun mem => by
    rw [List.mem_append, List.mem_cons]
    exact (List.mem_append.1 mem).imp_right .inr
  cases leaves with
  | nothing items => simp
  | letter s some =>
    rw [List.forall_mem_singleton]
    exact ⟨some, fun t mem => fits.2 t (other mem)⟩
  | letterBefore ss ts s p joint x =>
    rw [List.forall_mem_singleton]
    exact ⟨fun t mem => fits.1 t (other mem), fits.2⟩
  | lastLetter p joint x some =>
    rw [List.forall_mem_singleton]
    exact ⟨some, fits.1⟩

theorem Loses.perm (loses : Loses item phrases phrases') :
    (phrases.flatMap Phrase.items).Perm (item :: phrases'.flatMap Phrase.items) := by
  obtain ⟨before, after, leaves⟩ := loses
  rw [List.flatMap_append, List.flatMap_cons, List.flatMap_append, List.flatMap_append,
    List.append_assoc]
  exact ((leaves.perm.append_right _).append_left _).trans List.perm_middle

theorem Loses.fits (loses : Loses item phrases phrases')
    (fits : ∀ phrase ∈ phrases, phrase.Fits level) :
    ∀ phrase ∈ phrases', phrase.Fits level := by
  obtain ⟨before, after, leaves⟩ := loses
  intro other mem
  rw [List.append_assoc, List.mem_append, List.mem_append] at mem
  rcases mem with front | inside | back
  · exact fits other (List.mem_append_left _ front)
  · exact leaves.fits (fits _ (by simp)) other inside
  · exact fits other (by simp [back])

theorem Gains.perm (gains : Gains level item phrases phrases') :
    (phrases'.flatMap Phrase.items).Perm (item :: phrases.flatMap Phrase.items) := by
  obtain ⟨before, after, -, items⟩ := gains
  rw [List.flatMap_append, List.flatMap_cons, List.flatMap_append, items]
  exact List.perm_middle

theorem Gains.fits (gains : Gains level item phrases phrases')
    (fits : ∀ phrase ∈ phrases, phrase.Fits level) :
    ∀ phrase ∈ phrases', phrase.Fits level := by
  obtain ⟨before, after, known, -⟩ := gains
  intro other mem
  rw [List.mem_append, List.mem_cons] at mem
  rcases mem with front | rfl | back
  · exact fits other (List.mem_append_left _ front)
  · exact known
  · exact fits other (List.mem_append_right _ back)

end

/-! ### Items in another order -/

section

variable {items others outer outer' inner inner' : List Item} {item other : Item}
  {p : Parameter} {x y : String}

theorem SharedOnce.of_perm (once : SharedOnce items) (perm : items.Perm others) :
    SharedOnce others := by
  intro key shared
  rw [← (perm.map Item.key).count_eq]
  exact once key shared

/-- An item that is given once at most is given nowhere else. -/
theorem SharedOnce.not_mem (once : SharedOnce (item :: items)) (shared : item.IsShared) :
    item.key ∉ items.map Item.key := by
  have count := once item.key shared
  rw [List.map_cons, List.count_cons_self] at count
  exact List.count_eq_zero.1 (by omega)

/-- An option that is given once at most has one value. -/
theorem SharedOnce.value_unique (once : SharedOnce items) (shared : Key.parameter p ∈ sharedKeys)
    (mem : Item.value p x ∈ items) (mem' : Item.value p y ∈ items) : x = y := by
  have perm := List.perm_cons_erase mem
  have absent := (once.of_perm perm).not_mem shared
  rcases List.mem_cons.1 (perm.mem_iff.1 mem') with same | elsewhere
  · exact (Item.value.inj same).2.symm
  · exact absurd (mem_key_parameter_iff.2 ⟨y, elsewhere⟩) absent

theorem Admitted.value_unique (admitted : Admitted items) (mem : Item.value p x ∈ items)
    (mem' : Item.value p y ∈ items) : x = y :=
  (Item.value.inj (List.inj_on_of_nodup_map admitted.once mem mem' rfl)).2

theorem Admitted.of_perm (admitted : Admitted items) (perm : items.Perm others) :
    Admitted others where
  once := (perm.map Item.key).nodup_iff.1 admitted.once
  admits item mem := admitted.admits item (perm.mem_iff.2 mem)

theorem Admitted.of_cons (admitted : Admitted (item :: items)) : Admitted items where
  once := (List.nodup_cons.1 admitted.once).2
  admits other mem := admitted.admits other (List.mem_cons_of_mem item mem)

/-- An item may be given among others if it may be given somewhere, and is not given yet. -/
theorem Admitted.cons (admitted : Admitted items) (elsewhere : Admitted (item :: others))
    (absent : item.key ∉ items.map Item.key) : Admitted (item :: items) where
  once := List.nodup_cons.2 ⟨absent, admitted.once⟩
  admits other mem := by
    rcases List.mem_cons.1 mem with rfl | inside
    · exact elsewhere.admits other List.mem_cons_self
    · exact admitted.admits other inside

theorem contains_ofItems (s : Switch) :
    (Given.ofItems items).switches.contains s = decide (Item.on s ∈ items) := by
  rw [List.contains_eq_mem, decide_eq_decide]
  exact mem_switches_ofItems

theorem value?_ofItems_append (p : Parameter) : (Given.ofItems (inner ++ outer)).value? p =
    ((Given.ofItems inner).value? p).or ((Given.ofItems outer).value? p) := by
  rw [Given.value?, Given.value?, Given.value?, ← Option.map_or, ← List.find?_append]
  simp only [Given.ofItems, List.filterMap_append]

/-- The value that counts is the first one that is given. -/
theorem value?_ofItems (p : Parameter) :
    (Given.ofItems items).value? p = (items.filterMap (Item.valueOf? p)).head? := by
  induction items with
  | nil => rfl
  | cons item items ih =>
    rw [← List.singleton_append, value?_ofItems_append, List.filterMap_append,
      List.head?_append, ih]
    congr 1
    cases item with
    | on s => rfl
    | value q y =>
      by_cases same : q = p <;> simp [Given.ofItems, Given.value?, Item.entry?, Item.valueOf?, same]

/-- A command is asked for by the items that only its level knows. -/
theorem command_congr (level : Level) (admitted : Admitted inner) (admitted' : Admitted inner')
    (own : ∀ item : Item, ¬ item.IsShared → (item ∈ inner ↔ item ∈ inner')) :
    command level (.ofItems inner) = command level (.ofItems inner') := by
  have switch : ∀ s, Key.switch s ∉ sharedKeys →
      (Given.ofItems inner).switches.contains s = (Given.ofItems inner').switches.contains s := by
    intro s unshared
    rw [contains_ofItems, contains_ofItems, decide_eq_decide]
    exact own (.on s) unshared
  have value : ∀ p, Key.parameter p ∉ sharedKeys →
      (Given.ofItems inner).value? p = (Given.ofItems inner').value? p := by
    intro p unshared
    ext x
    rw [value?_ofItems_eq_some_iff fun y => admitted.value_unique,
      value?_ofItems_eq_some_iff fun y => admitted'.value_unique]
    exact own (.value p x) unshared
  have check : checkArguments (.ofItems inner) = checkArguments (.ofItems inner') := by
    rw [checkArguments, checkArguments, switch .strict (by decide), value .file (by decide),
      value .commit (by decide), value .range (by decide)]
  cases level with
  | outer => exact congrArg Command.check check
  | check => exact congrArg Command.check check
  | rules => rfl
  | init => rw [command, command, switch .force (by decide), value .preset (by decide)]
  | version => rfl

/-- What is asked for is the same when the options of every level are given at other levels. -/
theorem invocation_congr (fromVariable : Option String) (level : Level)
    (once : SharedOnce (outer ++ inner))
    (perm : (outer ++ inner).Perm (outer' ++ inner')) (admitted : Admitted inner)
    (admitted' : Admitted inner')
    (own : ∀ item : Item, ¬ item.IsShared → (item ∈ inner ↔ item ∈ inner')) :
    invocation fromVariable (.ofItems outer) (.ofItems inner) level =
      invocation fromVariable (.ofItems outer') (.ofItems inner') level := by
  have switch : ∀ s,
      ((Given.ofItems outer).switches.contains s || (Given.ofItems inner).switches.contains s) =
        ((Given.ofItems outer').switches.contains s
          || (Given.ofItems inner').switches.contains s) := by
    intro s
    simp only [contains_ofItems, ← Bool.decide_or, ← List.mem_append, perm.mem_iff]
  have value : ∀ p, Key.parameter p ∈ sharedKeys →
      ((Given.ofItems inner).value? p).or ((Given.ofItems outer).value? p) =
        ((Given.ofItems inner').value? p).or ((Given.ofItems outer').value? p) := by
    intro p shared
    have flip : (outer ++ inner).Perm (inner ++ outer) := List.perm_append_comm
    have flip' : (outer ++ inner).Perm (inner' ++ outer') := perm.trans List.perm_append_comm
    ext x
    rw [← value?_ofItems_append, ← value?_ofItems_append,
      value?_ofItems_eq_some_iff fun y => (once.of_perm flip).value_unique shared,
      value?_ofItems_eq_some_iff fun y => (once.of_perm flip').value_unique shared,
        ← flip.mem_iff, flip'.mem_iff]
  rw [invocation, invocation, switch .debug, switch .quiet, value .format (by decide),
    value .config (by decide),
    command_congr level admitted admitted' own]

end

/-! ### Moves keep what is asked for -/

section

variable {fromVariable : Option String} {level : Level} {item : Item}
  {from₁ from₂ to₁ to₂ : List Item}
  {phrases phrases' : List Phrase} {tail : Tail} {line line' : Line}

/-- All items together stay the same. -/
theorem perm_of_move (loses : from₁.Perm (item :: from₂)) (gains : to₂.Perm (item :: to₁)) :
    (from₁ ++ to₁).Perm (from₂ ++ to₂) :=
  calc (from₁ ++ to₁).Perm (item :: (from₂ ++ to₁)) := loses.append_right to₁
    _ |>.Perm (from₂ ++ item :: to₁) := List.perm_middle.symm
    _ |>.Perm (from₂ ++ to₂) := gains.symm.append_left from₂

/-- What is moved has not been given where it comes to. -/
theorem key_not_mem_of_move (shared : item.IsShared) (loses : from₁.Perm (item :: from₂))
    (once : SharedOnce (from₁ ++ to₁)) : item.key ∉ to₁.map Item.key := by
  have absent : item.key ∉ (from₂ ++ to₁).map Item.key :=
    (once.of_perm (loses.append_right to₁)).not_mem shared
  rw [List.map_append, List.mem_append, not_or] at absent
  exact absent.2

/-- The other items are given where they were. -/
theorem mem_iff_of_gains (gains : to₂.Perm (item :: to₁)) (shared : item.IsShared) (other : Item)
    (own : ¬ other.IsShared) : other ∈ to₁ ↔ other ∈ to₂ := by
  rw [gains.mem_iff, List.mem_cons]
  refine ⟨.inr, fun mem => mem.resolve_left ?_⟩
  rintro rfl
  exact own shared

theorem Loses.perm_items (loses : Loses item phrases phrases') (tail : Tail) :
    (Part.items ⟨phrases, tail⟩).Perm (item :: Part.items ⟨phrases', tail⟩) :=
  loses.perm.append_right tail.items

theorem Gains.perm_items (gains : Gains level item phrases phrases') (tail : Tail) :
    (Part.items ⟨phrases', tail⟩).Perm (item :: Part.items ⟨phrases, tail⟩) :=
  gains.perm.append_right tail.items

theorem Loses.fits_part (loses : Loses item phrases phrases')
    (fits : Part.Fits level ⟨phrases, tail⟩) :
    Part.Fits level ⟨phrases', tail⟩ :=
  ⟨loses.fits fits.phrases, fits.tail, (fits.admitted.of_perm (loses.perm_items tail)).of_cons⟩

theorem Gains.fits_part (gains : Gains level item phrases phrases')
    (fits : Part.Fits level ⟨phrases, tail⟩)
    (elsewhere : Admitted (item :: from₂))
    (absent : item.key ∉ (Part.items ⟨phrases, tail⟩).map Item.key) :
    Part.Fits level ⟨phrases', tail⟩ :=
  ⟨gains.fits fits.phrases, fits.tail,
    (fits.admitted.cons elsewhere absent).of_perm (gains.perm_items tail).symm⟩

/-- An empty variable counts at both levels, so that the configuration file would have to be named
twice. -/
theorem ne_empty_of_sound {before : List Phrase} {name : String} {after : Part}
    (sound : (Line.named before name level after).Sound fromVariable)
    (once : SharedOnce (Line.named before name level after).items) : fromVariable ≠ some "" := by
  intro empty
  have outer := sound.1.configured empty
  have inner := sound.2.2.configured empty
  have count := once (.parameter .config) (by decide)
  rw [items_nothing] at outer
  rw [Line.items, Line.outerItems, Line.innerItems, List.map_append, List.count_append] at count
  have first := List.count_pos_iff.2 outer
  have second := List.count_pos_iff.2 inner
  omega

/-- **One move.** A sound line stays sound, and asks for the same. -/
theorem Move.step (move : Move line line') (sound : line.Sound fromVariable)
    (once : SharedOnce line.items) :
    line'.Sound fromVariable ∧ line.items.Perm line'.items ∧
      line'.invocation fromVariable = line.invocation fromVariable := by
  cases move with
  | @inward item before before' after after' name level tail shared loses gains =>
    have nonempty := ne_empty_of_sound sound once
    obtain ⟨outer, named, inner⟩ := sound
    have lost := loses.perm
    have gained := gains.perm_items tail
    have moved := perm_of_move lost gained
    have absent := key_not_mem_of_move shared lost once
    have admitted : Admitted (item :: before'.flatMap Phrase.items) :=
      (items_nothing before ▸ outer.admitted).of_perm lost
    have fits := gains.fits_part inner.toFits admitted absent
    refine ⟨⟨(loses.fits_part outer.toFits).sound nonempty, named, fits.sound nonempty⟩, moved, ?_⟩
    exact (invocation_congr fromVariable level once moved inner.admitted fits.admitted
      (mem_iff_of_gains gained shared)).symm
  | @outward item before before' after after' name level tail shared loses gains =>
    have nonempty := ne_empty_of_sound sound once
    obtain ⟨outer, named, inner⟩ := sound
    have lost := loses.perm_items tail
    have gained := gains.perm
    have moved : (before.flatMap Phrase.items ++ Part.items ⟨after, tail⟩).Perm
        (before'.flatMap Phrase.items ++ Part.items ⟨after', tail⟩) :=
      List.perm_append_comm.trans ((perm_of_move lost gained).trans List.perm_append_comm)
    have absent := key_not_mem_of_move shared lost (once.of_perm List.perm_append_comm)
    have admitted : Admitted (item :: Part.items ⟨after', tail⟩) := inner.admitted.of_perm lost
    have fits := gains.fits_part outer.toFits admitted (items_nothing before ▸ absent)
    have fits' := loses.fits_part inner.toFits
    refine ⟨⟨fits.sound nonempty, named, fits'.sound nonempty⟩, moved, ?_⟩
    exact (invocation_congr fromVariable level once moved inner.admitted fits'.admitted
      fun other own => (mem_iff_of_gains lost shared other own).symm).symm

/-- Any number of moves keeps what one of them keeps. -/
theorem step_of_moved (moves : Relation.ReflTransGen Move line line')
    (sound : line.Sound fromVariable)
    (once : SharedOnce line.items) : line'.Sound fromVariable ∧ line.items.Perm line'.items ∧
      line'.invocation fromVariable = line.invocation fromVariable := by
  induction moves with
  | refl => exact ⟨sound, .refl _, rfl⟩
  | tail _ move ih =>
    obtain ⟨sound₁, perm₁, same₁⟩ := ih
    obtain ⟨sound₂, perm₂, same₂⟩ := move.step sound₁ (once.of_perm perm₁)
    exact ⟨sound₂, perm₁.trans perm₂, same₂.trans same₁⟩

/-- Arguments after moves are read to what the arguments before them are read to. -/
theorem read_of_moved (moves : Relation.ReflTransGen Move line line')
    (sound : line.Sound fromVariable)
    (once : SharedOnce line.items) :
    Invocation.read fromVariable line'.texts = Invocation.read fromVariable line.texts := by
  obtain ⟨sound', perm, same⟩ := step_of_moved moves sound once
  have sources : line'.sources.length = line.sources.length :=
    (perm.filterMap Item.source?).length_eq.symm
  rw [read_texts sound', read_texts sound, sources, same]

end

end CommandLine

open CommandLine

/-! ### Places of options -/

/-- A line that names no configuration file has the one that the variable names. -/
theorem config_invocation (fromVariable : Option String) (line : Line) :
    (line.invocation fromVariable).config = line.configs.head?.or fromVariable := by
  rw [Line.configs, ← value?_ofItems, value?_ofItems_append]
  rfl

/-- **The places of options.** Arguments that are accepted are those of a sound line. When none of
the options that every level knows is given twice on it, they may be moved between the levels, one
or any of them, and with the arguments of the line that comes of it the same is asked for. The
configuration file is the one that is named at either level, before the name of the command or after
it, whatever the variable is, and the one that the variable names if there is none. -/
theorem places_immaterial {fromVariable : Option String} {arguments : List String} {i : Invocation}
    (read : Invocation.read fromVariable arguments = .ok i) :
    (∃ line : Line, line.Sound fromVariable ∧ line.texts = arguments) ∧
    ∀ line : Line, line.Sound fromVariable → line.texts = arguments →
      (SharedOnce line.items → ∀ line', Relation.ReflTransGen Move line line' →
        Invocation.read fromVariable line'.texts = .ok i) ∧
      i.config = line.configs.head?.or fromVariable ∧
      (∀ path, line.configs.head? = some path →
        ∀ w : Workspace, w.chosenConfig i.config = w.loadConfigFrom path) ∧
      ∀ other, other ≠ some "" →
        Invocation.read other arguments = .ok { i with config := line.configs.head?.or other } := by
  refine ⟨exists_line_of_read read, ?_⟩
  rintro line sound rfl
  refine ⟨fun once line' moves => (read_of_moved moves sound once).trans read, ?_⟩
  rw [read_texts sound] at read
  split_ifs at read with two
  obtain rfl := Except.ok.inj read
  have config := config_invocation fromVariable line
  refine ⟨config, fun path named w => by rw [config, named]; rfl, fun other nonempty => ?_⟩
  rw [read_texts (sound.of_ne_empty nonempty), if_neg two, ← config_invocation]
  rfl

/-- A line with three options in front of a command, as letters of one argument, and two behind
it. -/
def bundledLine : Line :=
  .named [.lettersWith [.debug, .quiet] .config .apart "x.toml"] "init" .init
    ⟨[.parameter .format .equals "json", .letters [.force]], .nothing⟩

/-- The line with two of the three behind the command, and one from there in front. -/
def scatteredLine : Line :=
  .named [.parameter .format .apart "json", .letters [.debug]] "init" .init
    ⟨[.lettersWith [] .config .joined "x.toml", .switch .quiet, .letters [.force]], .nothing⟩

/-- What both lines ask for. -/
def bundledInvocation : Invocation :=
  ⟨.init true .standard, true, true, true, some .json, some "x.toml"⟩

theorem scattered_of_bundled : Relation.ReflTransGen Move bundledLine scatteredLine := by
  have letter : Loses (.on .quiet) [.lettersWith [.debug, .quiet] .config .apart "x.toml"]
      [.lettersWith [.debug] .config .apart "x.toml"] := .of [] [] (.letterBefore [.debug] [] ..)
  have switch : Gains .init (.on .quiet) [.parameter .format .equals "json", .letters [.force]]
      [.switch .quiet, .parameter .format .equals "json", .letters [.force]] :=
        .of [] _ (by decide) rfl
  have value : Loses (.value .config "x.toml") [.lettersWith [.debug] .config .apart "x.toml"]
      [.letters [.debug]] := .of [] [] (.lastLetter _ _ _ (by decide))
  have joined : Gains .init (.value .config "x.toml")
      [.switch .quiet, .parameter .format .equals "json", .letters [.force]]
      [.lettersWith [] .config .joined "x.toml", .switch .quiet, .parameter .format .equals "json",
        .letters [.force]] := .of [] _ (by decide) rfl
  have attached : Loses (.value .format "json")
      [.lettersWith [] .config .joined "x.toml", .switch .quiet, .parameter .format .equals "json",
        .letters [.force]]
      [.lettersWith [] .config .joined "x.toml", .switch .quiet, .letters [.force]] :=
    .of [.lettersWith [] .config .joined "x.toml", .switch .quiet]
      [.letters [.force]] (.nothing rfl)
  have apart : Gains .outer (.value .format "json") [.letters [.debug]]
      [.parameter .format .apart "json", .letters [.debug]] := .of [] _ (by decide) rfl
  exact ((Relation.ReflTransGen.single (.inward (by decide) letter switch)).tail
    (.inward (by decide) value joined)).tail (.outward (by decide) attached apart)

/-- Options are moved in both directions, out of letters and from among other phrases. -/
theorem places_immaterial_bundled :
    (bundledLine.texts = ["-dqc", "x.toml", "init", "--format=json", "-f"] ∧
      scatteredLine.texts = ["--format", "json", "-d", "init", "-cx.toml", "--quiet", "-f"] ∧
      Invocation.read (some "env.toml") ["-dqc", "x.toml", "init", "--format=json", "-f"] =
        .ok bundledInvocation) ∧
    Invocation.read (some "env.toml")
    ["--format", "json", "-d", "init", "-cx.toml", "--quiet", "-f"] =
      .ok bundledInvocation ∧
    Invocation.read none ["-dqc", "x.toml", "init", "--format=json", "-f"] =
      .ok bundledInvocation := by
  have texts : bundledLine.texts = ["-dqc", "x.toml", "init", "--format=json", "-f"] := by decide
  have texts' : scatteredLine.texts = ["--format", "json", "-d", "init", "-cx.toml", "--quiet",
      "-f"] := by decide
  have read : Invocation.read (some "env.toml") ["-dqc", "x.toml", "init", "--format=json", "-f"] =
      .ok bundledInvocation := by rfl
  obtain ⟨moved, -, -, unread⟩ := (places_immaterial read).2 bundledLine (by decide) texts
  refine ⟨⟨texts, texts', read⟩, ?_, unread none (by decide)⟩
  rw [← texts']
  exact moved (by decide) scatteredLine scattered_of_bundled

end CommitLint
