import CommitLint.Proofs.CommandLines
import CommitLint.Run
import Mathlib

/-!
# Sources of messages

A check has its messages from one source. Of the file, the commit and the range that it may be
given, the order in which they are looked at would pass over one without a word if there were two,
but such arguments are refused, whatever order they stand in. A check need not be named; when it is,
it is the same check, unless the variable that names the configuration file is empty, which then
counts at the level of the check.

* `source_checkArguments` — the source of a check is the one that is named;
* `read_concat_check` — what is read when a check is named as well;
* `one_source` — what a check has its messages from.
-/

namespace CommitLint

open CommandLine

/-! ### The source of a check -/

section

variable {items : List Item} {p : Parameter} {x : String} {s : Source}

theorem sources_eq_of_value? (one : (items.filterMap Item.source?).length ≤ 1)
    (found : (Given.ofItems items).value? p = some x) (names : (Item.value p x).source? = some s) :
    items.filterMap Item.source? = [s] := by
  have mem : s ∈ items.filterMap Item.source? :=
    List.mem_filterMap.2 ⟨_, mem_of_value?_ofItems found, names⟩
  obtain ⟨t, eq⟩ := List.length_eq_one_iff.1 (le_antisymm one (List.length_pos_of_mem mem))
  rw [eq, List.mem_singleton] at mem
  rw [eq, mem]

/-- The source of a check is the one that is named, or standard input. -/
theorem source_checkArguments (one : (items.filterMap Item.source?).length ≤ 1) :
    (items.filterMap Item.source? = [] ∧ (checkArguments (.ofItems items)).source =
      .standardInput) ∨
      ∃ s, items.filterMap Item.source? = [s] ∧ (checkArguments (.ofItems items)).source = s := by
  cases range : (Given.ofItems items).value? .range with
  | some x =>
    refine .inr ⟨.range x, sources_eq_of_value? one range rfl, ?_⟩
    rw [CheckArguments.source, checkArguments, range]
  | none =>
    cases commit : (Given.ofItems items).value? .commit with
    | some x =>
      refine .inr ⟨.commit x, sources_eq_of_value? one commit rfl, ?_⟩
      rw [CheckArguments.source, checkArguments, range, commit]
    | none =>
      cases file : (Given.ofItems items).value? .file with
      | some x =>
        refine .inr ⟨_, sources_eq_of_value? one file rfl, ?_⟩
        rw [CheckArguments.source, checkArguments, range, commit, file]
      | none =>
        refine .inl ⟨List.filterMap_eq_nil_iff.2 fun item mem => ?_, ?_⟩
        · rw [← Option.not_isSome_iff_eq_none, isSome_source?_iff]
          rintro ⟨p, source, key⟩
          have given : Key.parameter p ∈ items.map Item.key := key ▸ List.mem_map_of_mem mem
          simp only [List.mem_cons, List.not_mem_nil, or_false] at source
          rcases source with rfl | rfl | rfl
          · exact value?_ofItems_eq_none_iff.1 file given
          · exact value?_ofItems_eq_none_iff.1 commit given
          · exact value?_ofItems_eq_none_iff.1 range given
        · rw [CheckArguments.source, checkArguments, range, commit, file]

/-- A check counts the sources that are named. -/
theorem sourceCount_checkArguments (admitted : Admitted items) :
    (checkArguments (.ofItems items)).sourceCount = (items.filterMap Item.source?).length := by
  rw [length_sources admitted, CheckArguments.sourceCount, checkArguments]
  cases file : (Given.ofItems items).value? .file <;>
    cases commit : (Given.ofItems items).value? .commit <;>
    cases range : (Given.ofItems items).value? .range <;> simp [file, commit, range]

end

/-! ### Checks -/

section

variable {fromVariable : Option String} {line : Line} {part : Part} {i : Invocation}
  {a : CheckArguments}

/-- A check has the one source that its line names. -/
theorem source_of_check (sound : line.Sound fromVariable) (one : line.sources.length ≤ 1)
    (check : (line.invocation fromVariable).command = .check a) :
    a.sourceCount = line.sources.length ∧
      ((line.sources = [] ∧ a.source = .standardInput) ∨ ∃ s, line.sources = [s] ∧
        a.source = s) := by
  cases line with
  | unnamed part =>
    obtain rfl : checkArguments .nothing = a := Command.check.inj check
    rw [sources_unnamed sound.toFits]
    exact ⟨rfl, .inl ⟨rfl, rfl⟩⟩
  | named before name level after =>
    obtain ⟨outer, named, inner⟩ := sound
    rw [sources_named outer.toFits] at one ⊢
    have other := ne_outer_of_ofName? named
    cases level with
    | check =>
      obtain rfl : checkArguments (.ofItems after.items) = a := Command.check.inj check
      exact ⟨sourceCount_checkArguments inner.admitted, source_checkArguments one⟩
    | outer => exact absurd rfl other
    | rules => cases check
    | init => cases check
    | version => cases check

/-- No command is named when none is read. -/
theorem exists_unnamed_of_explicit (sound : line.Sound fromVariable)
    (implicit : (line.invocation fromVariable).explicit = false) :
    ∃ part, line = .unnamed part := by
  cases line with
  | unnamed part => exact ⟨part, rfl⟩
  | named before name level after =>
    exact absurd (ne_outer_of_ofName? sound.2.1) (of_decide_eq_false implicit)

theorem tail_eq_nothing (plain : "--" ∉ part.texts) : part.tail = .nothing := by
  cases tail : part.tail with
  | nothing => rfl
  | hyphens => exact absurd (by simp [Part.texts, tail, Tail.texts]) plain
  | file x => exact absurd (by simp [Part.texts, tail, Tail.texts]) plain

/-- A check that is named after all the rest is the check that is meant without a name. -/
theorem read_concat_check (sound : part.Sound fromVariable .outer) (tail : part.tail = .nothing)
    (nonempty : fromVariable ≠ some "") : Invocation.read fromVariable (part.texts ++ ["check"]) =
      .ok { (Line.unnamed part).invocation fromVariable with explicit := true } := by
  obtain ⟨phrases, _⟩ := part
  obtain rfl := tail
  have sound' : (Line.named phrases "check" .check ⟨[], .nothing⟩).Sound fromVariable :=
    ⟨sound, rfl, Part.Fits.sound (by decide) nonempty⟩
  have texts : Part.texts ⟨phrases, .nothing⟩ ++ ["check"] =
      (Line.named phrases "check" .check ⟨[], .nothing⟩).texts := by
    rw [Part.texts, Tail.texts, List.append_nil]
    rfl
  rw [texts, read_texts sound', sources_named sound.toFits, if_neg (by decide), Line.invocation,
    Line.invocation,
    Line.outerItems, Line.outerItems, items_nothing]
  rfl

/-- An empty variable counts for a check that is named, whatever was given before. -/
theorem read_concat_check_empty (sound : part.Sound (some "") .outer)
    (tail : part.tail = .nothing) :
    Invocation.read (some "") (part.texts ++ ["check"]) = .error .invalidValue := by
  obtain ⟨phrases, _⟩ := part
  obtain rfl := tail
  obtain ⟨outer, holds, read⟩ :=
    readLevel_phrases sound.phrases (holds_ofItems []) sound.admitted.of_append ["check"]
  have opened : readLevel .outer .nothing (Part.texts ⟨phrases, .nothing⟩ ++ ["check"]) =
      .ok (outer, some (.check, [])) := by
    rw [Part.texts, Tail.texts, List.append_nil]
    exact read.trans (readLevel_name holds rfl [])
  rw [Invocation.read, opened]
  rfl

end

/-- **One source of messages.** Arguments are accepted exactly when they are those of a sound line
that names one source at most. When they ask for a check, the check has the source that is named,
and standard input if none is; when they are sound but name two sources, in whatever order and
wherever they stand, they are refused as a conflict. Arguments that name no command, with no two
hyphens alone among them, ask for the same as they do with the name of the check after them, and a
run does the same; unless the variable that may name the configuration file is empty, for then a
check that is named is refused. -/
theorem one_source (fromVariable : Option String) (arguments : List String) :
    ((∃ i, Invocation.read fromVariable arguments = .ok i) ↔
      ∃ line : Line, line.Sound fromVariable ∧ line.texts = arguments ∧ line.sources.length ≤ 1) ∧
    (∀ line : Line, line.Sound fromVariable → line.texts = arguments →
      (∀ i a, Invocation.read fromVariable arguments = .ok i → i.command = .check a →
        a.sourceCount = line.sources.length ∧
          ((line.sources = [] ∧ a.source = .standardInput) ∨ ∃ s, line.sources = [s] ∧
            a.source = s)) ∧
      (1 < line.sources.length → Invocation.read fromVariable arguments =
        .error .argumentConflict)) ∧
    ∀ i, Invocation.read fromVariable arguments = .ok i → i.explicit = false → "--" ∉ arguments →
      (fromVariable ≠ some "" →
        Invocation.read fromVariable (arguments ++ ["check"]) = .ok { i with explicit := true } ∧
          ∀ (w : Workspace) build styled input,
            w.run build styled input { i with explicit := true } = w.run build styled input i) ∧
      (fromVariable = some "" →
        Invocation.read fromVariable (arguments ++ ["check"]) = .error .invalidValue) := by
  refine ⟨?_, ?_, ?_⟩
  · constructor
    · rintro ⟨i, read⟩
      obtain ⟨line, sound, texts, one, -⟩ := read_eq_ok_iff.1 read
      exact ⟨line, sound, texts, one⟩
    · rintro ⟨line, sound, texts, one⟩
      exact ⟨_, read_eq_ok_iff.2 ⟨line, sound, texts, one, rfl⟩⟩
  · rintro line sound rfl
    constructor
    · intro i a read check
      rw [read_texts sound] at read
      split_ifs at read with two
      obtain rfl := Except.ok.inj read
      exact source_of_check sound (not_lt.1 two) check
    · intro two
      rw [read_texts sound, if_pos two]
  · intro i read implicit plain
    obtain ⟨line, sound, rfl, -, rfl⟩ := read_eq_ok_iff.1 read
    obtain ⟨part, rfl⟩ := exists_unnamed_of_explicit sound implicit
    have tail := tail_eq_nothing plain
    constructor
    · intro nonempty
      exact ⟨read_concat_check sound tail nonempty, fun _ _ _ _ => rfl⟩
    · rintro rfl
      exact read_concat_check_empty sound tail

/-- A line with two sources: a hyphen for a file, and a commit. -/
def crowdedLine : Line :=
  .named [] "check" .check ⟨[.file "-", .letters [.quiet], .parameter .commit .equals "HEAD"],
    .nothing⟩

/-- A line with one source, which looks like an option. -/
def hyphenedLine : Line :=
  .named [.letters [.debug]] "check" .check ⟨[.switch .strict], .file "--range"⟩

/-- The check that this line asks for. -/
def hyphenedCheck : CheckArguments := ⟨some "--range", none, none, true⟩

/-- What is asked for by options alone. -/
def bareInvocation : Invocation :=
  ⟨.check ⟨none, none, none, false⟩, false, true, true, some .json, some "c.toml"⟩

/-- Two sources are refused, one is taken as it stands, and a check need not be named. -/
theorem one_source_crowded :
    (crowdedLine.Sound none ∧ crowdedLine.texts = ["check", "-", "-q", "--commit=HEAD"] ∧
      Invocation.read none ["check", "-", "-q", "--commit=HEAD"] = .error .argumentConflict) ∧
    (hyphenedLine.Sound none ∧ hyphenedLine.texts = ["-d", "check", "--strict", "--", "--range"] ∧
      Invocation.read none ["-d", "check", "--strict", "--", "--range"] =
        .ok ⟨.check hyphenedCheck, true, true, false, none, none⟩ ∧
      hyphenedLine.sources = [.file "--range"] ∧ hyphenedCheck.source = .file "--range") ∧
    (Invocation.read (some "c.toml") ["-dq", "--format", "json"] = .ok bareInvocation ∧
      "--" ∉ ["-dq", "--format", "json"] ∧
      Invocation.read (some "c.toml") ["-dq", "--format", "json", "check"] =
        .ok { bareInvocation with explicit := true }) := by
  have crowded : crowdedLine.Sound none := by decide
  have hyphened : hyphenedLine.Sound none := by decide
  have bare : Invocation.read (some "c.toml") ["-dq", "--format", "json"] = .ok bareInvocation := by
    rfl
  have taken : Invocation.read none ["-d", "check", "--strict", "--", "--range"] =
      .ok ⟨.check hyphenedCheck, true, true, false, none, none⟩ := by rfl
  have one : hyphenedLine.sources = [.file "--range"] := by decide
  refine ⟨⟨crowded, by decide, ?_⟩, ⟨hyphened, by decide, taken, one, ?_⟩, bare, by decide, ?_⟩
  · exact ((one_source none _).2.1 crowdedLine crowded (by decide)).2 (by decide)
  · obtain ⟨-, ⟨none, -⟩ | ⟨s, found, source⟩⟩ :=
      ((one_source none _).2.1 hyphenedLine hyphened (by decide)).1 _ hyphenedCheck taken rfl
    · cases one.symm.trans none
    · obtain rfl : Source.file "--range" = s := (List.cons.inj (one.symm.trans found)).1
      exact source
  · exact (((one_source _ _).2.2 _ bare rfl (by decide)).1 (by decide)).1

/-- A check that is named may be refused though it is accepted without its name: an empty variable
is passed over when the configuration file is named, but only at the level where that is done. -/
theorem named_check_refused :
    ¬ ∀ fromVariable arguments i, Invocation.read fromVariable arguments = .ok i →
    i.explicit = false → "--" ∉ arguments →
      ∃ named, Invocation.read fromVariable (arguments ++ ["check"]) = .ok named := by
  intro accepted
  have bare : Invocation.read (some "") ["--config", "x.toml"] =
      .ok ⟨.check ⟨none, none, none, false⟩, false, false, false, none, some "x.toml"⟩ := by rfl
  have refused : Invocation.read (some "") (["--config", "x.toml"] ++ ["check"]) =
      .error .invalidValue := by rfl
  obtain ⟨named, read⟩ := accepted _ _ _ bare rfl (by decide)
  cases refused.symm.trans read

end CommitLint
