import CommitLint.Proofs.PhraseReading
import Mathlib

/-!
# Phrases in arguments

Arguments that are read are those of phrases. An option is a phrase by itself, or it is the first
argument of one and its value is the next; and any other argument is a file. So nothing is accepted
but what can be written with phrases.

* `readLong_cases`, `exists_switches_of_readShorts` — what an option can be that is read;
* `Opens`, `opens_of_readArgument` — an option is a phrase, or opens one;
* `exists_part_of_readLevel` — the arguments of a level are those of a part.
-/

namespace CommitLint.CommandLine

/-! ### Names -/

section

variable {level : Level} {items : List Item} {s : Switch} {p : Parameter}
  {x : String} {g g' : Given}

theorem of_findKey?_switch {ofSwitch : Switch → Bool} {ofParameter : Parameter → Bool}
    (found : level.findKey? ofSwitch ofParameter = some (.switch s)) :
    s ∈ level.switches ∧ ofSwitch s = true := by
  rw [Level.findKey?] at found
  split at found
  · next t first =>
    obtain rfl : t = s := Key.switch.inj (Option.some.inj found)
    exact ⟨List.mem_of_find?_eq_some first, List.find?_some first⟩
  · obtain ⟨q, -, key⟩ := Option.map_eq_some_iff.1 found
    cases key

theorem of_findKey?_parameter {ofSwitch : Switch → Bool} {ofParameter : Parameter → Bool}
    (found : level.findKey? ofSwitch ofParameter = some (.parameter p)) :
    p ∈ level.parameters ∧ ofParameter p = true := by
  rw [Level.findKey?] at found
  split at found
  · cases found
  · obtain ⟨q, first, key⟩ := Option.map_eq_some_iff.1 found
    obtain rfl : q = p := Key.parameter.inj key
    exact ⟨List.mem_of_find?_eq_some first, List.find?_some first⟩

theorem of_longKey?_switch {name : String} (found : level.longKey? name = some (.switch s)) :
    s ∈ level.switches ∧ s.long = name := by
  rw [Level.longKey?] at found
  split_ifs at found
  · cases found
  · cases found
  · simpa using of_findKey?_switch found

theorem of_longKey?_parameter {name : String} (found : level.longKey? name = some (.parameter p)) :
    p ∈ level.parameters ∧ p.longName = name := by
  rw [Level.longKey?] at found
  split_ifs at found
  · cases found
  · cases found
  · obtain ⟨known, long⟩ := of_findKey?_parameter found
    have long : p.long? = some name := by simpa using long
    exact ⟨known, by rw [Parameter.longName, long]; rfl⟩

theorem of_shortKey?_switch {c : Char} (found : level.shortKey? c = some (.switch s)) :
    s ∈ level.switches ∧ s.short? = some c := by
  rw [Level.shortKey?] at found
  split_ifs at found
  · cases found
  · cases found
  · simpa using of_findKey?_switch found

theorem of_shortKey?_parameter {c : Char} (found : level.shortKey? c = some (.parameter p)) :
    p ∈ level.parameters ∧ p.short? = some c := by
  rw [Level.shortKey?] at found
  split_ifs at found
  · cases found
  · cases found
  · simpa using of_findKey?_parameter found

theorem stop_ne_ok {cause : Stop} : g.stop cause ≠ .ok g' := by
  rw [Given.stop]
  cases g.settle <;> exact nofun

/-! ### Options -/

/-- An option with a long name that is read turns a switch on, lets a parameter wait or gives it its
value. -/
theorem readLong_cases {cs : List Char} (read : readLong level g cs = .ok g') :
    (∃ s ∈ level.switches, cs = s.long.toList ∧ g.turnOn s = .ok g') ∨
    (∃ p ∈ level.parameters, cs = p.longName.toList ∧ g.await p = .ok g') ∨
    ∃ p ∈ level.parameters, ∃ x : String, cs = p.longName.toList ++ '=' :: x.toList ∧
      g.assign p x = .ok g' := by
  rw [readLong] at read
  cases cut : Text.splitAtFirst? ['='] cs with
  | none =>
    rw [cut] at read
    cases key : level.longKey? (String.ofList cs) with
    | none => simp [key] at read
    | some found =>
      simp only [key] at read
      cases found with
      | switch s =>
        obtain ⟨known, long⟩ := of_longKey?_switch key
        exact .inl ⟨s, known, by rw [long, String.toList_ofList], read⟩
      | parameter p =>
        obtain ⟨known, long⟩ := of_longKey?_parameter key
        exact .inr (.inl ⟨p, known, by rw [long, String.toList_ofList], read⟩)
      | help => exact absurd read stop_ne_ok
      | version => exact absurd read stop_ne_ok
  | some sides =>
    obtain ⟨name, value⟩ := sides
    rw [cut] at read
    cases key : level.longKey? (String.ofList name) with
    | none => simp [key] at read
    | some found =>
      simp only [key] at read
      cases found with
      | parameter p =>
        obtain ⟨known, long⟩ := of_longKey?_parameter key
        refine .inr (.inr ⟨p, known, String.ofList value, ?_, read⟩)
        rw [long, String.toList_ofList, String.toList_ofList, Text.eq_append_of_splitAtFirst? cut]
        simp
      | switch s => cases read
      | help => cases read
      | version => cases read

theorem Admitted.concat_on (admitted : Admitted items) (fresh : Key.switch s ∉ items.map Item.key) :
    Admitted (items ++ [.on s]) where
  once := by simpa [Item.key] using admitted.once.concat fresh
  admits item mem := by
    rcases List.mem_append.1 mem with before | last
    · exact admitted.admits item before
    · obtain rfl := List.mem_singleton.1 last
      rfl

theorem Admitted.concat_value (admitted : Admitted items)
    (fresh : Key.parameter p ∉ items.map Item.key)
    (admits : p.admits x = true) : Admitted (items ++ [.value p x]) where
  once := by simpa [Item.key] using admitted.once.concat fresh
  admits item mem := by
    rcases List.mem_append.1 mem with before | last
    · exact admitted.admits item before
    · obtain rfl := List.mem_singleton.1 last
      exact admits

/-- Letters that are read are those of switches, and there is an end of them or the letter of a
parameter. -/
theorem exists_switches_of_readShorts {cs : List Char} (holds : g.Holds items)
    (admitted : Admitted items)
    (read : readShorts level g cs = .ok g') :
    ∃ ss left g₁, cs = List.filterMap Switch.short? ss ++ left ∧
      (∀ s ∈ ss, s ∈ level.switches ∧ s.short?.isSome = true) ∧
      g₁.Holds (items ++ ss.map .on) ∧ Admitted (items ++ ss.map .on) ∧
      readShorts level g₁ left = .ok g' ∧
      ∀ c ∈ left.head?, ∃ p, level.shortKey? c = some (.parameter p) := by
  induction cs generalizing g items with
  | nil => exact ⟨[], [], g, rfl, by simp, by simpa using holds, by
    simpa using admitted, read, by simp⟩
  | cons c cs ih =>
    cases key : level.shortKey? c with
    | none => simp [readShorts, key] at read
    | some found =>
      cases found with
      | parameter p =>
        exact ⟨[], c :: cs, g, rfl, by simp, by simpa using holds, by simpa using admitted,
          read, by simp [key]⟩
      | switch s =>
        obtain ⟨known, letter⟩ := of_shortKey?_switch key
        rw [readShorts, key] at read
        obtain ⟨g₁, on, read⟩ := bind_eq_ok_iff.1 read
        obtain ⟨fresh, rfl⟩ := holds.turnOn_eq_ok_iff.1 on
        obtain ⟨ss, left, g₂, rfl, switches, holds₂, admitted₂, read₂, last⟩ :=
          ih (holds_ofItems _) (admitted.concat_on fresh) read
        rw [List.append_assoc] at holds₂ admitted₂
        refine ⟨s :: ss, left, g₂, ?_, ?_, holds₂, admitted₂, read₂, last⟩
        · rw [List.filterMap_cons_some letter, List.cons_append]
        · rintro t (_ | ⟨_, mem⟩)
          · exact ⟨known, by rw [letter]; rfl⟩
          · exact switches t mem
      | help =>
        rw [readShorts, key] at read
        exact absurd read stop_ne_ok
      | version =>
        rw [readShorts, key] at read
        exact absurd read stop_ne_ok

/-- What an option leads to when it is read: it is a phrase by itself, or one with the next
argument, whatever value that is. -/
inductive Opens (level : Level) (items : List Item) (x : String) : Given → Prop
  /-- It is a phrase. -/
  | whole {g : Given} (phrase : Phrase) : phrase.Fits level → phrase.texts = [x] →
    g.Holds (items ++ phrase.items) → Admitted (items ++ phrase.items) → Opens level items x g
  /-- It is a phrase with the value that its parameter waits for. -/
  | waiting (before : List Item) (p : Parameter) (phrase : String → Phrase) :
    Admitted (items ++ before) →
    (∀ y, isValue y = true → (phrase y).Fits level ∧ (phrase y).texts = [x, y] ∧
      (phrase y).items = before ++ [.value p y]) →
    Opens level items x { Given.ofItems (items ++ before) with pending := some (p, none) }

theorem opens_of_readLong {cs : List Char} (holds : g.Holds items) (admitted : Admitted items)
    (chars : x.toList = '-' :: '-' :: cs) (read : readLong level g cs = .ok g') :
    Opens level items x g' := by
  rcases readLong_cases read with ⟨s, known, rfl, on⟩ | ⟨p, known, rfl, waits⟩
    | ⟨p, known, y, rfl, assigned⟩
  · obtain ⟨fresh, rfl⟩ := holds.turnOn_eq_ok_iff.1 on
    have text : "--" ++ s.long = x := String.toList_inj.1 (by simp [chars])
    exact .whole (.switch s) known (by rw [← text]; rfl) (holds_ofItems _)
      (admitted.concat_on fresh)
  · rw [holds.await] at waits
    obtain rfl := Except.ok.inj waits
    have text : "--" ++ p.longName = x := String.toList_inj.1 (by simp [chars])
    have waiting : Opens level items x
        { Given.ofItems (items ++ []) with pending := some (p, none) } :=
      .waiting [] p (.parameter p .apart) (by simpa using admitted) fun y value =>
        ⟨⟨known, by decide, value⟩, by rw [← text]; rfl, rfl⟩
    rw [List.append_nil] at waiting
    exact waiting
  · obtain ⟨⟨fresh, admits⟩, rfl⟩ := holds.assign_eq_ok_iff.1 assigned
    have text : "--" ++ p.longName ++ "=" ++ y = x := String.toList_inj.1 (by simp [chars])
    exact .whole (.parameter p .equals y) ⟨known, by decide, trivial⟩ (by rw [← text]; rfl)
      (holds_ofItems _)
      (admitted.concat_value fresh admits)

/-- The letter of a parameter is followed by nothing, by an equals sign and a value, or by a
value. -/
theorem opens_of_readShorts_parameter {ss : List Switch} {c : Char} {cs : List Char}
    (switches : ∀ s ∈ ss, s ∈ level.switches ∧ s.short?.isSome = true)
    (holds : g.Holds (items ++ ss.map .on))
    (admitted : Admitted (items ++ ss.map .on)) (key : level.shortKey? c = some (.parameter p))
    (chars : x.toList = '-' :: (ss.filterMap Switch.short? ++ c :: cs))
    (read : readShorts level g (c :: cs) = .ok g') : Opens level items x g' := by
  obtain ⟨known, letter⟩ := of_shortKey?_parameter key
  have isSome : p.short?.isSome = true := by rw [letter]; rfl
  have name : (parameterLetters ss p).toList = '-' :: (ss.filterMap Switch.short? ++ [c]) := by
    rw [parameterLetters, letter, String.toList_ofList]
    rfl
  -- A value that is joined to the letter in either way.
  have given : ∀ (joint : Joint) (y : String), joint.Keeps y →
      joint.texts (parameterLetters ss p) y = [x] →
      g.assign p y = .ok g' → Opens level items x g' := by
    intro joint y kept texts assigned
    obtain ⟨⟨fresh, admits⟩, rfl⟩ := holds.assign_eq_ok_iff.1 assigned
    have regroup : items ++ (Phrase.lettersWith ss p joint y).items =
        items ++ ss.map .on ++ [.value p y] :=
      (List.append_assoc ..).symm
    exact .whole (.lettersWith ss p joint y) ⟨switches, known, isSome, kept⟩ texts
      (regroup ▸ holds_ofItems _)
      (regroup ▸ admitted.concat_value fresh admits)
  cases cs with
  | nil =>
    rw [readShorts_parameter key, holds.await] at read
    obtain rfl := Except.ok.inj read
    have text : parameterLetters ss p = x := String.toList_inj.1 (name.trans chars.symm)
    exact .waiting (ss.map .on) p (.lettersWith ss p .apart) admitted fun y value =>
      ⟨⟨switches, known, isSome, value⟩, by rw [← text]; rfl, rfl⟩
  | cons d rest =>
    by_cases equals : d = '='
    · subst equals
      have text : parameterLetters ss p ++ "=" ++ String.ofList rest = x :=
        String.toList_inj.1 (by rw [chars]; simp [name])
      have assigned := readShorts_parameter_equals (g := g) key (String.ofList rest)
      rw [String.toList_ofList, read] at assigned
      exact given .equals (String.ofList rest) trivial (by rw [← text]; rfl) assigned.symm
    · have text : parameterLetters ss p ++ String.ofList (d :: rest) = x :=
        String.toList_inj.1 (by rw [chars]; simp [name])
      have nonempty : String.ofList (d :: rest) ≠ "" := fun none => by
        simpa using congrArg String.toList none
      have front : (String.ofList (d :: rest)).toList.head? ≠ some '=' := by simpa using equals
      have assigned := readShorts_parameter_joined (g := g) key nonempty front
      rw [String.toList_ofList, read] at assigned
      exact given .joined (String.ofList (d :: rest)) ⟨nonempty, front⟩
        (by rw [← text]; rfl) assigned.symm

/-- An option that is read is a phrase, or opens one. -/
theorem opens_of_readArgument (holds : g.Holds items) (admitted : Admitted items)
    (option : isValue x = false)
    (other : x ≠ "--") (read : readArgument level g x = .ok g') : Opens level items x g' := by
  obtain ⟨c, cs, chars⟩ := exists_of_not_isValue option
  by_cases hyphen : c = '-'
  · subst hyphen
    have nonempty : cs ≠ [] := by
      rintro rfl
      exact other (String.toList_inj.1 chars)
    rw [readArgument_long holds.literal nonempty chars] at read
    exact opens_of_readLong holds admitted chars read
  · rw [readArgument_letters holds.literal (by simp) (by simpa using hyphen) chars] at read
    obtain ⟨ss, left, g₁, eq, switches, holds₁, admitted₁, read₁, last⟩ :=
      exists_switches_of_readShorts holds admitted read
    rw [eq] at chars
    cases left with
    | nil =>
      obtain rfl : g₁ = g' := Except.ok.inj read₁
      have nonempty : ss ≠ [] := by
        rintro rfl
        cases eq
      have text : switchLetters ss = x := String.toList_inj.1 (by rw [chars]; simp [switchLetters])
      exact .whole (.letters ss) ⟨nonempty, switches⟩ (by rw [← text]; rfl) holds₁ admitted₁
    | cons d rest =>
      obtain ⟨p, key⟩ := last d rfl
      exact opens_of_readShorts_parameter switches holds₁ admitted₁ key chars read₁

/-! ### What must be settled -/

theorem settles_of_bind {α : Type} {f : Given → Except Stop α} {a : α}
    (read : (g.settle >>= f) = .ok a) :
    ∃ settled, g.settle = .ok settled := by
  obtain ⟨settled, found, -⟩ := bind_eq_ok_iff.1 read
  exact ⟨settled, found⟩

theorem settles_of_readPlaced (read : readPlaced level g x = .ok g') :
    level = .check ∧ g.hasFile = false ∧ ∃ settled, g.settle = .ok settled ∧
      g' = { settled with pending := some (.file, some x) } := by
  cases level with
  | check =>
    rw [readPlaced] at read
    cases file : g.hasFile with
    | true => simp [file] at read
    | false =>
      rw [file, if_neg Bool.false_ne_true] at read
      obtain ⟨settled, found, eq⟩ := bind_eq_ok_iff.1 read
      exact ⟨rfl, rfl, settled, found, (Except.ok.inj eq).symm⟩
  | outer => cases read
  | rules => cases read
  | init => cases read
  | version => cases read

/-- An option takes effect after what was pending is settled. -/
theorem settles_of_option (literal : g.literal = false) (option : isValue x = false)
    (other : x ≠ "--")
    (read : readArgument level g x = .ok g') : ∃ settled, g.settle = .ok settled := by
  obtain ⟨c, cs, chars⟩ := exists_of_not_isValue option
  by_cases hyphen : c = '-'
  · subst hyphen
    have nonempty : cs ≠ [] := by
      rintro rfl
      exact other (String.toList_inj.1 chars)
    rw [readArgument_long literal nonempty chars] at read
    rcases readLong_cases read with ⟨s, -, -, on⟩ | ⟨p, -, -, waits⟩ | ⟨p, -, y, -, assigned⟩
    · exact settles_of_bind on
    · exact settles_of_bind waits
    · exact settles_of_bind assigned
  · rw [readArgument_letters literal (by simp) (by simpa using hyphen) chars, readShorts] at read
    split at read
    · cases read
    · obtain ⟨g₁, on, -⟩ := bind_eq_ok_iff.1 read
      exact settles_of_bind on
    · split at read
      · exact settles_of_bind read
      · exact settles_of_bind read
    · exact absurd read stop_ne_ok
    · exact absurd read stop_ne_ok

theorem readArgument_hyphens (literal : g.literal = false) :
    readArgument level g "--" = .ok { g with literal := true } := by
  rw [readArgument, literal, if_neg Bool.false_ne_true]
  rfl

/-- What is pending can be settled if all that comes after two hyphens is read and settled. -/
theorem readLevel_literal {arguments : List String} {named : Option (Level × List String)}
    {settled : Given}
    (literal : g.literal = true) (read : readLevel level g arguments = .ok (g', named))
    (settles : g'.settle = .ok settled) :
    (∃ settled, g.settle = .ok settled) ∧ named = none ∧
      (arguments = [] ∨ ∃ x before, level = .check ∧ arguments = [x] ∧ g.hasFile = false ∧
        g.settle = .ok before ∧
        ∃ after, Given.settle { before with pending := some (.file, some x) } = .ok after) := by
  have busy : mayName level g = false := by simp [mayName, literal]
  cases arguments with
  | nil =>
    obtain ⟨rfl, rfl⟩ := Prod.mk.inj (Except.ok.inj read)
    exact ⟨⟨settled, settles⟩, rfl, .inl rfl⟩
  | cons x rest =>
    rw [readLevel_of_busy busy, readArgument, if_pos literal] at read
    obtain ⟨g₁, placed, read⟩ := bind_eq_ok_iff.1 read
    obtain ⟨rfl, absent, before, found, rfl⟩ := settles_of_readPlaced placed
    refine ⟨⟨before, found⟩, ?_⟩
    have literal₁ : before.literal = true := (literal_settle found).trans literal
    cases rest with
    | nil =>
      obtain ⟨rfl, rfl⟩ := Prod.mk.inj (Except.ok.inj read)
      exact ⟨rfl, .inr ⟨x, before, rfl, rfl, absent, found, settled, settles⟩⟩
    | cons y more =>
      -- A second file is not read.
      rw [readLevel_of_busy rfl, readArgument, if_pos literal₁] at read
      obtain ⟨g₂, again, -⟩ := bind_eq_ok_iff.1 read
      have file := (settles_of_readPlaced again).2.1
      simp [Given.hasFile] at file

/-- What is pending can be settled if no parameter waits and the rest is read and settled. -/
theorem settles_of_readLevel {arguments : List String} {named : Option (Level × List String)}
    {settled : Given}
    (literal : g.literal = false) (ready : g.awaiting? = none)
    (read : readLevel level g arguments = .ok (g', named)) (settles : g'.settle = .ok settled) :
    ∃ settled, g.settle = .ok settled := by
  cases arguments with
  | nil =>
    obtain ⟨rfl, rfl⟩ := Prod.mk.inj (Except.ok.inj read)
    exact ⟨settled, settles⟩
  | cons x rest =>
    by_cases hyphens : x = "--"
    · subst hyphens
      rw [readLevel_option rfl, readArgument_hyphens literal] at read
      obtain ⟨⟨before, found⟩, -⟩ := readLevel_literal rfl read settles
      rw [settle_literal] at found
      obtain ⟨before, found, -⟩ := map_eq_ok_iff.1 found
      exact ⟨before, found⟩
    · cases value : isValue x with
      | false =>
        rw [readLevel_option value] at read
        obtain ⟨g₁, argued, -⟩ := bind_eq_ok_iff.1 read
        exact settles_of_option literal value hyphens argued
      | true =>
        rw [readLevel] at read
        split at read
        · cases read
        · split at read
          · obtain ⟨rfl, -⟩ := Prod.mk.inj (Except.ok.inj read)
            exact ⟨settled, settles⟩
          · obtain ⟨g₁, argued, -⟩ := bind_eq_ok_iff.1 read
            rw [readArgument_value literal value, ready] at argued
            obtain ⟨-, -, before, found, -⟩ := settles_of_readPlaced argued
            exact ⟨before, found⟩

/-- A parameter that waits is given the next argument, or else what is read can not be settled. -/
theorem exists_value_of_waiting {arguments : List String} {named : Option (Level × List String)}
    {settled : Given}
    (read : readLevel level { Given.ofItems items with pending := some (p, none) } arguments =
      .ok (g', named))
    (settles : g'.settle = .ok settled) : ∃ x rest, arguments = x :: rest ∧ isValue x = true ∧
      readLevel level { Given.ofItems items with pending := some (p, some x) } rest =
        .ok (g', named) := by
  have unsettled : ∀ g, Given.settle { Given.ofItems items with pending := some (p, none) } ≠
      .ok g := nofun
  cases arguments with
  | nil =>
    obtain ⟨rfl, rfl⟩ := Prod.mk.inj (Except.ok.inj read)
    exact absurd settles (unsettled settled)
  | cons x rest =>
    by_cases hyphens : x = "--"
    · subst hyphens
      rw [readLevel_option rfl, readArgument_hyphens rfl] at read
      obtain ⟨⟨before, found⟩, -⟩ := readLevel_literal rfl read settles
      cases found
    · cases value : isValue x with
      | false =>
        rw [readLevel_option value] at read
        obtain ⟨g₁, argued, -⟩ := bind_eq_ok_iff.1 read
        obtain ⟨before, found⟩ := settles_of_option rfl value hyphens argued
        exact absurd found (unsettled before)
      | true =>
        rw [readLevel_value rfl rfl value] at read
        exact ⟨x, rest, rfl, value, read⟩

/-! ### All arguments of a level -/

/-- Whether the arguments at a level are those of a part, up to the name of a command if one is
met. -/
inductive Covers (level : Level) : Part → List String → Option (Level × List String) → Prop
  /-- No command is named. -/
  | whole (part : Part) : Covers level part part.texts none
  /-- A command is named, and the rest is left to it. -/
  | named {name : String} {inner : Level} (phrases : List Phrase) (rest : List String) : level =
    .outer →
    Level.ofName? name = some inner →
    Covers level ⟨phrases, .nothing⟩ (phrases.flatMap Phrase.texts ++ name :: rest)
      (some (inner, rest))

theorem Covers.cons {part : Part} {arguments : List String} {named : Option (Level × List String)}
    (covers : Covers level part arguments named) (phrase : Phrase) :
    Covers level ⟨phrase :: part.phrases, part.tail⟩ (phrase.texts ++ arguments) named := by
  cases covers with
  | whole =>
    have texts : phrase.texts ++ part.texts = Part.texts ⟨phrase :: part.phrases, part.tail⟩ :=
      (List.append_assoc ..).symm
    rw [texts]
    exact .whole _
  | named phrases rest outer name =>
    rw [← List.append_assoc]
    exact .named (phrase :: phrases) rest outer name

/-- Whether a part may be what comes after some items. -/
structure Follows (level : Level) (items : List Item) (part : Part) : Prop where
  /-- The phrases may stand at the level. -/
  phrases : ∀ phrase ∈ part.phrases, phrase.Fits level
  /-- So may what follows them. -/
  tail : part.tail.Fits level
  /-- Nothing is given twice, and values are among those that may be given. -/
  admitted : Admitted (items ++ part.items)

theorem Follows.cons {part : Part} {phrase : Phrase} (fits : phrase.Fits level)
    (follows : Follows level (items ++ phrase.items) part) :
    Follows level items ⟨phrase :: part.phrases, part.tail⟩ where
  phrases := by
    rintro other (_ | ⟨_, mem⟩)
    · exact fits
    · exact follows.phrases other mem
  tail := follows.tail
  admitted := by
    have admitted := follows.admitted
    rw [Part.items, List.append_assoc] at admitted
    rw [Part.items, List.flatMap_cons, List.append_assoc]
    exact admitted

theorem follows_nothing (admitted : Admitted items) : Follows level items ⟨[], .nothing⟩ :=
  ⟨by simp, trivial, by simpa [Part.items, Tail.items] using admitted⟩

/-- What comes after two hyphens is nothing, or a file. -/
theorem exists_tail_of_readLevel {arguments : List String} {named : Option (Level × List String)}
    {settled : Given}
    (holds : g.Holds items) (admitted : Admitted items)
    (read : readLevel level { g with literal := true } arguments = .ok (g', named))
    (settles : g'.settle = .ok settled) :
    named = none ∧ ∃ tail, Follows level items ⟨[], tail⟩ ∧ "--" :: arguments = tail.texts := by
  obtain ⟨-, rfl, rfl | ⟨x, before, rfl, rfl, absent, found, after, settled⟩⟩ :=
    readLevel_literal rfl read settles
  · exact ⟨rfl, .hyphens, ⟨by simp, trivial, by simpa [Part.items, Tail.items] using admitted⟩, rfl⟩
  · rw [settle_literal, holds.settles] at found
    obtain rfl := Except.ok.inj found
    have settled' : Given.settle
        { ({ Given.ofItems items with pending := some (.file, some x) } : Given) with
          literal := true } = .ok after := settled
    rw [settle_literal] at settled'
    obtain ⟨_, settled', -⟩ := map_eq_ok_iff.1 settled'
    obtain ⟨⟨fresh, admits⟩, -⟩ := settle_pending_eq_ok_iff.1 settled'
    exact ⟨rfl, .file x, ⟨by simp, rfl, admitted.concat_value fresh admits⟩, rfl⟩

/-- **What is read is written.** Arguments that are read, so that what they give can be settled, are
those of a part, up to the name of a command. -/
theorem exists_part_of_readLevel {arguments : List String} {named : Option (Level × List String)}
    {settled : Given}
    (holds : g.Holds items) (admitted : Admitted items)
    (read : readLevel level g arguments = .ok (g', named))
    (settles : g'.settle = .ok settled) :
    ∃ part, Follows level items part ∧ Covers level part arguments named := by
  -- A phrase takes one argument or two, so the induction is on a bound for their number.
  obtain ⟨n, lt⟩ : ∃ n, arguments.length < n := ⟨_, Nat.lt_succ_self _⟩
  induction n generalizing arguments g items with
  | zero => exact absurd lt (Nat.not_lt_zero _)
  | succ n ih =>
    -- What is read after a value that has been met.
    have after_value : ∀ {items : List Item} {p : Parameter} {x : String} {rest : List String},
        rest.length < n →
        Admitted items →
        readLevel level { Given.ofItems items with pending := some (p, some x) } rest =
          .ok (g', named) →
        ∃ part, Follows level (items ++ [.value p x]) part ∧ Covers level part rest named := by
      intro items p x rest short admitted read
      obtain ⟨_, settled⟩ := settles_of_readLevel rfl rfl read settles
      obtain ⟨⟨fresh, admits⟩, -⟩ := settle_pending_eq_ok_iff.1 settled
      have admitted' := admitted.concat_value fresh admits
      exact ih admitted'.holds_pending admitted' read short
    cases arguments with
    | nil =>
      obtain ⟨rfl, rfl⟩ := Prod.mk.inj (Except.ok.inj read)
      exact ⟨_, follows_nothing admitted, .whole _⟩
    | cons x rest =>
      have short : rest.length < n := Nat.lt_of_succ_lt_succ lt
      by_cases hyphens : x = "--"
      · subst hyphens
        rw [readLevel_option rfl, readArgument_hyphens holds.literal] at read
        obtain ⟨rfl, tail, follows, texts⟩ := exists_tail_of_readLevel holds admitted read settles
        rw [texts]
        exact ⟨⟨[], tail⟩, follows, .whole _⟩
      · cases value : isValue x with
        | false =>
          rw [readLevel_option value] at read
          obtain ⟨g₁, argued, read⟩ := bind_eq_ok_iff.1 read
          cases opens_of_readArgument holds admitted value hyphens argued with
          | whole phrase fits texts holds₁ admitted₁ =>
            obtain ⟨part, follows, covers⟩ := ih holds₁ admitted₁ read short
            have covers' := covers.cons phrase
            rw [texts] at covers'
            exact ⟨_, follows.cons fits, covers'⟩
          | waiting before p phrase admitted₁ completed =>
            obtain ⟨y, more, rfl, value, read⟩ := exists_value_of_waiting read settles
            obtain ⟨fits, texts, items⟩ := completed y value
            obtain ⟨part, follows, covers⟩ := after_value (Nat.lt_of_succ_lt short) admitted₁ read
            rw [List.append_assoc, ← items] at follows
            have covers' := covers.cons (phrase y)
            rw [texts] at covers'
            exact ⟨_, follows.cons fits, covers'⟩
        | true =>
          rw [readLevel] at read
          split at read
          · cases read
          · split at read
            · next inner name =>
              obtain ⟨rfl, rfl⟩ := Prod.mk.inj (Except.ok.inj read)
              split_ifs at name with may
              have outer : level = .outer := by
                rw [mayName, Bool.and_eq_true, Bool.and_eq_true] at may
                exact of_decide_eq_true may.1.1
              exact ⟨_, follows_nothing admitted, .named [] rest outer name⟩
            · obtain ⟨g₁, argued, read⟩ := bind_eq_ok_iff.1 read
              rw [readArgument_value holds.literal value, holds.ready] at argued
              obtain ⟨rfl, -, before, found, rfl⟩ := settles_of_readPlaced argued
              obtain rfl : Given.ofItems items = before :=
                Except.ok.inj (holds.settles.symm.trans found)
              obtain ⟨part, follows, covers⟩ := after_value short admitted read
              have fits : (Phrase.file x).Fits .check := ⟨rfl, value⟩
              exact ⟨_, follows.cons fits, covers.cons (.file x)⟩

end

end CommitLint.CommandLine
