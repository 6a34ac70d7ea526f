import CommitLint.Proofs.PhraseCover
import Mathlib

/-!
# Command lines

A command line as it is written: one part, or phrases, the name of a command and a part of its own.
A line is sound if its parts may stand where they do, and if an empty variable does not count at
either level. How many sources of messages it names is left apart.

* `Line` — what is written on a command line, and what it asks for;
* `read_texts` — a sound line is read to what it asks for, unless it names two sources;
* `read_eq_ok_iff` — arguments are read exactly when they are those of a sound line with one source
  at most.
-/

namespace CommitLint.CommandLine

/-! ### Lines -/

/-- Whether a part may stand at a level, with a variable that may name the configuration file: if
the variable is empty, the part has to name one. -/
structure Part.Sound (fromVariable : Option String) (level : Level) (part : Part) : Prop extends
    Part.Fits level part where
  /-- The variable is not empty, or does not count. -/
  configured : fromVariable = some "" → .parameter .config ∈ part.items.map Item.key

instance (fromVariable : Option String) (level : Level) (part : Part) :
    Decidable (part.Sound fromVariable level) :=
  decidable_of_iff (part.Fits level ∧ (fromVariable = some "" →
    Key.parameter .config ∈ part.items.map Item.key))
    ⟨fun h => ⟨h.1, h.2⟩, fun h => ⟨h.toFits, h.configured⟩⟩

/-- A variable that is not empty asks for nothing. -/
theorem Part.Fits.sound {fromVariable : Option String} {level : Level} {part : Part}
    (fits : part.Fits level)
    (nonempty : fromVariable ≠ some "") : part.Sound fromVariable level :=
  ⟨fits, fun empty => absurd empty nonempty⟩

/-- What is written on a command line. -/
inductive Line
  /-- No command is named. -/
  | unnamed (part : Part)
  /-- A command is named, with a part of its own. -/
  | named (before : List Phrase) (name : String) (level : Level) (after : Part)
  deriving DecidableEq, Repr

namespace Line

def texts : Line → List String
  | unnamed part => part.texts
  | named before name _ after => before.flatMap Phrase.texts ++ name :: after.texts

/-- What is given before a command is named. -/
def outerItems : Line → List Item
  | unnamed part => part.items
  | named before _ _ _ => before.flatMap Phrase.items

/-- What is given to the command that is named. -/
def innerItems : Line → List Item
  | unnamed _ => []
  | named _ _ _ after => after.items

def items (line : Line) : List Item := line.outerItems ++ line.innerItems

def sources (line : Line) : List Source := line.items.filterMap Item.source?

/-- Whether a line may stand, apart from how many sources it names. -/
def Sound (fromVariable : Option String) : Line → Prop
  | unnamed part => part.Sound fromVariable .outer
  | named before name level after =>
    Part.Sound fromVariable .outer ⟨before, .nothing⟩ ∧ Level.ofName? name = some level ∧
      after.Sound fromVariable level

instance (fromVariable : Option String) (line : Line) : Decidable (line.Sound fromVariable) :=
  match line with
  | unnamed part => inferInstanceAs (Decidable (part.Sound fromVariable .outer))
  | named before name level after =>
    inferInstanceAs (Decidable (Part.Sound fromVariable .outer ⟨before, .nothing⟩ ∧
      Level.ofName? name = some level ∧ after.Sound fromVariable level))

/-- A line that is sound with some variable is sound with any that is not empty. -/
theorem Sound.of_ne_empty {fromVariable other : Option String} {line : Line}
    (sound : line.Sound fromVariable)
    (nonempty : other ≠ some "") : line.Sound other := by
  cases line with
  | unnamed part => exact sound.toFits.sound nonempty
  | named before name level after =>
    obtain ⟨outer, named, inner⟩ := sound
    exact ⟨outer.toFits.sound nonempty, named, inner.toFits.sound nonempty⟩

/-- The level at which a line asks for something. -/
def level : Line → Level
  | unnamed _ => .outer
  | named _ _ level _ => level

def invocation (fromVariable : Option String) (line : Line) : Invocation :=
  CommandLine.invocation fromVariable (.ofItems line.outerItems)
    (.ofItems line.innerItems) line.level

end Line

/-! ### Sources -/

section

variable {level : Level} {items : List Item} {item : Item}

/-- Sources are named by a file, a commit or a range. -/
theorem isSome_source?_iff : item.source?.isSome = true ↔
    ∃ p ∈ [Parameter.file, .commit, .range], item.key = .parameter p := by
  cases item with
  | on s => simp [Item.source?, Item.key]
  | value p x => cases p <;> simp [Item.source?, Item.key]

/-- Only a check is given sources. -/
theorem source?_eq_none_of_fits {phrase : Phrase} (fits : phrase.Fits level)
    (other : level ≠ .check)
    (mem : item ∈ phrase.items) : item.source? = none := by
  have unsourced : ∀ p ∈ level.parameters, p ∉ [Parameter.file, .commit, .range] := by
    cases level with
    | check => exact absurd rfl other
    | outer => decide
    | rules => decide
    | init => decide
    | version => decide
  have known : ∀ p ∈ level.parameters, ∀ x, (Item.value p x).source? = none := by
    intro p known x
    rw [← Option.not_isSome_iff_eq_none, isSome_source?_iff]
    rintro ⟨q, source, key⟩
    exact unsourced p known (Key.parameter.inj key ▸ source)
  cases phrase with
  | switch s =>
    obtain rfl := List.mem_singleton.1 mem
    rfl
  | parameter p joint x =>
    obtain rfl := List.mem_singleton.1 mem
    exact known p fits.1 x
  | letters ss =>
    obtain ⟨s, -, rfl⟩ := List.mem_map.1 mem
    rfl
  | lettersWith ss p joint x =>
    rcases List.mem_append.1 mem with switch | last
    · obtain ⟨s, -, rfl⟩ := List.mem_map.1 switch
      rfl
    · obtain rfl := List.mem_singleton.1 last
      exact known p fits.2.1 x
  | file x => exact absurd fits.1 other

theorem sources_eq_nil_of_fits {part : Part} (fits : part.Fits level) (other : level ≠ .check) :
    part.items.filterMap Item.source? = [] := by
  rw [List.filterMap_eq_nil_iff]
  intro item mem
  rcases List.mem_append.1 mem with phrased | last
  · obtain ⟨phrase, inside, mem⟩ := List.mem_flatMap.1 phrased
    exact source?_eq_none_of_fits (fits.phrases phrase inside) other mem
  · have tail := fits.tail
    cases eq : part.tail with
    | nothing => simp [eq, Tail.items] at last
    | hyphens => simp [eq, Tail.items] at last
    | file x =>
      rw [eq] at tail
      exact absurd tail other

/-- As many sources are named as there are parameters with a value that name one. -/
theorem length_sources (admitted : Admitted items) : (items.filterMap Item.source?).length =
    ([Parameter.file, .commit, .range].filter fun p =>
      ((Given.ofItems items).value? p).isSome).length := by
  have perm : ((items.filter fun item => item.source?.isSome).map Item.key).Perm
      (([Parameter.file, .commit, .range].filter fun p =>
        ((Given.ofItems items).value? p).isSome).map
        Key.parameter) := by
    refine (List.perm_ext_iff_of_nodup ?_ ?_).2 fun key => ?_
    · exact (List.filter_sublist.map Item.key).nodup admitted.once
    · exact (List.Nodup.filter _ (by decide)).map fun p q => Key.parameter.inj
    · have given : ∀ p, ((Given.ofItems items).value? p).isSome = true ↔
          Key.parameter p ∈ items.map Item.key := by
        intro p
        rw [Option.isSome_iff_ne_none, ne_eq, value?_ofItems_eq_none_iff, not_not]
      simp only [List.mem_map, List.mem_filter, isSome_source?_iff, given]
      constructor
      · rintro ⟨item, ⟨mem, p, source, eq⟩, rfl⟩
        exact ⟨p, ⟨source, item, mem, eq⟩, eq.symm⟩
      · rintro ⟨p, ⟨source, item, mem, eq⟩, rfl⟩
        exact ⟨item, ⟨mem, p, source, eq⟩, eq⟩
  have length := perm.length_eq
  rw [List.length_map, List.length_map] at length
  rw [← length, List.length_filterMap_eq_countP, List.countP_eq_length_filter]

/-- There are two sources when two are named. -/
theorem hasTwoSources_ofItems (admitted : Admitted items) :
    hasTwoSources (.ofItems items) = decide (1 < (items.filterMap Item.source?).length) := by
  rw [hasTwoSources, length_sources admitted]

end

/-! ### Reading a line -/

section

variable {fromVariable : Option String} {level : Level} {items : List Item} {g : Given}
  {literal : Bool}

/-- A level is settled when the configuration file is named or the variable is not empty, and there
are no two sources. -/
theorem finish_of_settle (settles : g.settle = .ok { Given.ofItems items with literal := literal })
    (admitted : Admitted items) : finish fromVariable g =
      if fromVariable = some "" ∧ .parameter .config ∉ items.map Item.key then .error .invalidValue
      else if 1 < (items.filterMap Item.source?).length then .error .argumentConflict
      else .ok { Given.ofItems items with literal := literal } := by
  have unnamed :
      (((Given.ofItems items).value? .config).isNone && decide (fromVariable = some "")) = true ↔
        fromVariable = some "" ∧ .parameter .config ∉ items.map Item.key := by
    rw [Bool.and_eq_true, Option.isNone_iff_eq_none, value?_ofItems_eq_none_iff,
      decide_eq_true_iff, and_comm]
  have two : hasTwoSources { Given.ofItems items with literal := literal } =
      decide (1 < (items.filterMap Item.source?).length) := hasTwoSources_ofItems admitted
  rw [finish, settles]
  show (if (((Given.ofItems items).value? .config).isNone && decide (fromVariable = some "")) = true
    then Except.error Stop.invalidValue
    else if hasTwoSources { Given.ofItems items with literal := literal } =
      true then .error .argumentConflict
    else .ok { Given.ofItems items with literal := literal }) = _
  simp only [unnamed, two, decide_eq_true_eq]

/-- Whether hyphens have lost their meaning does not matter once all is settled. -/
theorem invocation_literal (fromVariable : Option String) (outer inner : Given) (b c : Bool)
    (level : Level) :
    invocation fromVariable { outer with literal := b } { inner with literal := c } level =
      invocation fromVariable outer inner level := by
  cases level <;> rfl

theorem ne_outer_of_ofName? {name : String} (named : Level.ofName? name = some level) :
    level ≠ .outer := by
  unfold Level.ofName? at named
  split at named <;> cases named <;> decide

/-- The name of a command ends the level before it. -/
theorem readLevel_name {name : String} (holds : g.Holds items)
    (named : Level.ofName? name = some level)
    (rest : List String) : readLevel .outer g (name :: rest) = .ok (g, some (level, rest)) := by
  have may : mayName .outer g = true := by
    rw [mayName, holds.literal, holds.ready]
    rfl
  have other : name ≠ Level.helpName := by
    rintro rfl
    cases named
  rw [readLevel]
  simp [may, other, named]

theorem items_nothing (phrases : List Phrase) :
    Part.items ⟨phrases, .nothing⟩ = phrases.flatMap Phrase.items :=
  List.append_nil _

/-- A sound part is settled unless it names two sources. -/
theorem finish_of_sound {part : Part} (sound : part.Sound fromVariable level)
    (settles : g.settle = .ok { Given.ofItems part.items with literal := literal }) :
    finish fromVariable g =
      if 1 < (part.items.filterMap Item.source?).length then .error .argumentConflict
      else .ok { Given.ofItems part.items with literal := literal } := by
  rw [finish_of_settle settles sound.admitted, if_neg]
  rintro ⟨empty, absent⟩
  exact absent (sound.configured empty)

/-- A part with no sources is settled. -/
theorem finish_of_sound_of_ne {part : Part} (sound : part.Sound fromVariable level)
    (other : level ≠ .check)
    (settles : g.settle = .ok { Given.ofItems part.items with literal := literal }) :
    finish fromVariable g = .ok { Given.ofItems part.items with literal := literal } := by
  rw [finish_of_sound sound settles, sources_eq_nil_of_fits sound.toFits other]
  rfl

/-- Sources are named at the inner level only. -/
theorem sources_named {before : List Phrase} {name : String} {after : Part}
    (outer : Part.Fits .outer ⟨before, .nothing⟩) :
    (Line.named before name level after).sources = after.items.filterMap Item.source? := by
  have none := sources_eq_nil_of_fits outer (by decide)
  rw [items_nothing] at none
  rw [Line.sources, Line.items, Line.outerItems, Line.innerItems, List.filterMap_append, none,
    List.nil_append]

theorem sources_unnamed {part : Part} (fits : part.Fits .outer) :
    (Line.unnamed part).sources = [] := by
  rw [Line.sources, Line.items, Line.outerItems, Line.innerItems, List.append_nil]
  exact sources_eq_nil_of_fits fits (by decide)

/-- A sound line is read to what it asks for, unless it names two sources. -/
theorem read_texts {line : Line} (sound : line.Sound fromVariable) :
    Invocation.read fromVariable line.texts =
    if 1 < line.sources.length then .error .argumentConflict
    else .ok (line.invocation fromVariable) := by
  cases line with
  | unnamed part =>
    obtain ⟨outer, b, read, settles⟩ := readLevel_part sound.toFits
    rw [sources_unnamed sound.toFits, Line.texts, Invocation.read, read]
    show (finish fromVariable outer >>= fun outer =>
      .ok (CommandLine.invocation fromVariable outer .nothing .outer)) = _
    rw [finish_of_sound_of_ne sound (by decide) settles]
    exact congrArg Except.ok (invocation_literal fromVariable (.ofItems part.items) .nothing
      b false .outer)
  | named before name level after =>
    obtain ⟨sound, named, inside⟩ := sound
    obtain ⟨outer, holds, read⟩ :=
      readLevel_phrases sound.phrases (holds_ofItems []) sound.admitted.of_append
      (name :: after.texts)
    have settles : outer.settle = .ok { Given.ofItems (Part.items ⟨before, .nothing⟩)
        with literal := false } := by
      rw [holds.settles, items_nothing]
      rfl
    have settled := finish_of_sound_of_ne sound (by decide) settles
    rw [items_nothing] at settled
    obtain ⟨inner, c, read', settles'⟩ := readLevel_part inside.toFits
    have opened : readLevel .outer .nothing (before.flatMap Phrase.texts ++ name :: after.texts) =
        .ok (outer, some (level, after.texts)) := read.trans (readLevel_name holds named _)
    rw [sources_named sound.toFits, Line.texts, Invocation.read, opened]
    show (readLevel level .nothing after.texts >>=
        fun read => finish fromVariable read.1 >>= fun inner =>
      finish fromVariable outer >>= fun outer =>
        .ok (CommandLine.invocation fromVariable outer inner level)) = _
    rw [read']
    show (finish fromVariable inner >>= fun inner => finish fromVariable outer >>= fun outer =>
      .ok (CommandLine.invocation fromVariable outer inner level)) = _
    rw [finish_of_sound inside settles', settled]
    split_ifs
    · rfl
    · exact congrArg Except.ok (invocation_literal fromVariable
        (.ofItems (before.flatMap Phrase.items))
        (.ofItems after.items) false c level)

/-- A part that is settled is sound. -/
theorem sound_of_finish {part : Part} {settled : Given} (fits : part.Fits level)
    (settles : g.settle = .ok { Given.ofItems part.items with literal := literal })
    (finished : finish fromVariable g = .ok settled) : part.Sound fromVariable level := by
  refine ⟨fits, fun empty => ?_⟩
  by_contra absent
  rw [finish_of_settle settles fits.admitted, if_pos ⟨empty, absent⟩] at finished
  cases finished

/-- What is read from the arguments of a part is what the part gives. -/
theorem settles_of_covers {part : Part} {arguments : List String}
    {named : Option (Level × List String)}
    (fits : part.Fits level) (covers : Covers level part arguments named)
    (read : readLevel level .nothing arguments = .ok (g, named)) :
    ∃ literal, g.settle = .ok { Given.ofItems part.items with literal := literal } := by
  cases covers with
  | whole =>
    obtain ⟨g', literal, read', settles⟩ := readLevel_part fits
    obtain ⟨rfl, -⟩ := Prod.mk.inj (Except.ok.inj (read'.symm.trans read))
    exact ⟨literal, settles⟩
  | @named name inner phrases rest outer found =>
    subst outer
    obtain ⟨g', holds, read'⟩ :=
      readLevel_phrases fits.phrases (holds_ofItems []) fits.admitted.of_append
      (name :: rest)
    obtain ⟨rfl, -⟩ :=
      Prod.mk.inj (Except.ok.inj ((read'.trans (readLevel_name holds found rest)).symm.trans read))
    refine ⟨false, ?_⟩
    rw [holds.settles, items_nothing]
    rfl

/-- The arguments of a level that are read and settled are those of a sound part. -/
theorem exists_sound_of_readLevel {arguments : List String} {named : Option (Level × List String)}
    {settled : Given}
    (read : readLevel level .nothing arguments = .ok (g, named))
    (finished : finish fromVariable g = .ok settled) :
    ∃ part : Part, part.Sound fromVariable level ∧ Covers level part arguments named := by
  obtain ⟨before, settles⟩ := settles_of_bind finished
  have admitted : Admitted [] := by decide
  obtain ⟨part, follows, covers⟩ :=
    exists_part_of_readLevel (holds_ofItems []) admitted read settles
  have fits : part.Fits level := ⟨follows.phrases, follows.tail, follows.admitted⟩
  obtain ⟨literal, settles⟩ := settles_of_covers fits covers read
  exact ⟨part, sound_of_finish fits settles finished, covers⟩

/-- Arguments that are read are those of a sound line. -/
theorem exists_line_of_read {arguments : List String} {i : Invocation}
    (read : Invocation.read fromVariable arguments = .ok i) :
    ∃ line : Line, line.Sound fromVariable ∧ line.texts = arguments := by
  obtain ⟨⟨outer, named⟩, opened, read⟩ := bind_eq_ok_iff.1 read
  cases named with
  | none =>
    obtain ⟨settled, finished, -⟩ := bind_eq_ok_iff.1 read
    obtain ⟨part, sound, covers⟩ := exists_sound_of_readLevel opened finished
    cases covers with
    | whole => exact ⟨.unnamed part, sound, rfl⟩
  | some found =>
    obtain ⟨level, rest⟩ := found
    obtain ⟨⟨inner, again⟩, read', read⟩ := bind_eq_ok_iff.1 read
    obtain ⟨settled', finished', read⟩ := bind_eq_ok_iff.1 read
    obtain ⟨settled, finished, -⟩ := bind_eq_ok_iff.1 read
    obtain ⟨part, sound, covers⟩ := exists_sound_of_readLevel opened finished
    obtain ⟨after, sound', covers'⟩ := exists_sound_of_readLevel read' finished'
    cases covers with
    | named before _ outer named =>
      cases covers' with
      | whole => exact ⟨.named before _ level after, ⟨sound, named, sound'⟩, rfl⟩
      | named _ _ outer => exact absurd outer (ne_outer_of_ofName? named)

/-- **What the arguments of a run may be.** They are read exactly when they are those of a sound
line that names one source at most, and then to what the line asks for. -/
theorem read_eq_ok_iff {arguments : List String} {i : Invocation} :
    Invocation.read fromVariable arguments = .ok i ↔ ∃ line : Line, line.Sound fromVariable ∧
      line.texts = arguments ∧ line.sources.length ≤ 1 ∧ line.invocation fromVariable = i := by
  constructor
  · intro read
    obtain ⟨line, sound, rfl⟩ := exists_line_of_read read
    rw [read_texts sound] at read
    split_ifs at read with two
    exact ⟨line, sound, rfl, not_lt.1 two, Except.ok.inj read⟩
  · rintro ⟨line, sound, rfl, one, rfl⟩
    rw [read_texts sound, if_neg (not_lt.2 one)]

end

end CommitLint.CommandLine
