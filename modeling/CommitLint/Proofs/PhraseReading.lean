import CommitLint.Proofs.NamedCommits
import CommitLint.Proofs.WrittenArguments
import Mathlib

/-!
# Reading phrases

The arguments of a phrase are read to what it gives. A long name is known at its level, and has no
equals sign in it; letters are read one after the other, and what follows the letter of a parameter
is its value; and an argument that is no option is a value if a parameter waits for one, or else a
file.

* `readLong_switch`, `readLong_parameter` — long names;
* `readShorts_switches`, `readShorts_parameter` — letters;
* `readLevel_phrase` — a phrase adds what it gives to what has been given;
* `readLevel_part` — all phrases of a level together, and what follows them.
-/

namespace CommitLint.CommandLine

/-! ### Names -/

section

variable {level : Level} {items : List Item} {s : Switch} {p : Parameter}
  {x : String} {g g' : Given}

theorem equals_not_mem_long (s : Switch) : '=' ∉ s.long.toList := by
  cases s <;> decide

theorem equals_not_mem_longName (p : Parameter) : '=' ∉ p.longName.toList := by
  cases p <;> decide

theorem longKey?_long (known : s ∈ level.switches) : level.longKey? s.long = some (.switch s) := by
  revert known
  cases level <;> cases s <;> decide

theorem longKey?_longName (known : p ∈ level.parameters) :
    level.longKey? p.longName = some (.parameter p) := by
  revert known
  cases level <;> cases p <;> decide

theorem shortKey?_short? {c : Char} (known : s ∈ level.switches) (letter : s.short? = some c) :
    level.shortKey? c = some (.switch s) := by
  revert known
  cases s <;> cases letter <;> cases level <;> decide

theorem shortKey?_short?_parameter {c : Char} (known : p ∈ level.parameters)
    (letter : p.short? = some c) :
    level.shortKey? c = some (.parameter p) := by
  revert known
  cases p <;> cases letter
  cases level <;> decide

theorem splitAtFirst?_equals {name : List Char} (plain : '=' ∉ name) :
    Text.splitAtFirst? ['='] name = none := by
  rw [Text.splitAtFirst?_eq_none_iff (by decide), List.singleton_infix_iff]
  exact plain

theorem splitAtFirst?_equals_append {name : List Char} (plain : '=' ∉ name) (after : List Char) :
    Text.splitAtFirst? ['='] (name ++ '=' :: after) = some (name, after) := by
  have cut : Text.splitAtFirst? ['='] (name ++ ['='] ++ after) = some (name, after) :=
    Text.splitAtFirst?_append after (by decide) (by simpa [List.singleton_infix_iff] using plain)
  simpa using cut

theorem readLong_switch (known : s ∈ level.switches) :
    readLong level g s.long.toList = g.turnOn s := by
  rw [readLong, splitAtFirst?_equals (equals_not_mem_long s)]
  simp only [String.ofList_toList, longKey?_long known]

theorem readLong_parameter (known : p ∈ level.parameters) :
    readLong level g p.longName.toList = g.await p := by
  rw [readLong, splitAtFirst?_equals (equals_not_mem_longName p)]
  simp only [String.ofList_toList, longKey?_longName known]

theorem readLong_parameter_equals (known : p ∈ level.parameters) (x : String) :
    readLong level g (p.longName.toList ++ '=' :: x.toList) = g.assign p x := by
  rw [readLong, splitAtFirst?_equals_append (equals_not_mem_longName p)]
  simp only [String.ofList_toList, longKey?_longName known]

end

/-! ### Phrases -/

section

variable {level : Level} {items : List Item} {s : Switch} {p : Parameter}
  {x : String} {g g' : Given}

theorem exists_of_not_isValue (option : isValue x = false) : ∃ c cs, x.toList = '-' :: c :: cs := by
  rw [isValue] at option
  split at option
  · next c cs eq => exact ⟨c, cs, eq⟩
  · cases option

theorem not_isValue_of_toList {c : Char} {cs : List Char} (eq : x.toList = '-' :: c :: cs) :
    isValue x = false := by
  rw [isValue, eq]
  rfl

/-- The names of commands do not start with a hyphen. -/
theorem isValue_of_ofName? {inner : Level} (named : Level.ofName? x = some inner) :
    isValue x = true := by
  unfold Level.ofName? at named
  split at named
  · rfl
  · rfl
  · rfl
  · rfl
  · cases named

theorem readLevel_of_busy (busy : mayName level g = false) (x : String) (rest : List String) :
    readLevel level g (x :: rest) = readArgument level g x >>= fun g => readLevel level g rest := by
  rw [readLevel]
  simp [busy]

/-- What starts with a hyphen names no command. -/
theorem readLevel_option (option : isValue x = false) (rest : List String) :
    readLevel level g (x :: rest) = readArgument level g x >>= fun g => readLevel level g rest := by
  have help : x ≠ Level.helpName := by
    rintro rfl
    cases option
  have unnamed : Level.ofName? x = none := by
    cases named : Level.ofName? x with
    | none => rfl
    | some inner =>
      rw [isValue_of_ofName? named] at option
      cases option
  rw [readLevel]
  simp [help, unnamed]

/-- An argument that may be a value is that of the parameter that waits, or else is taken by its
place. -/
theorem readArgument_value (literal : g.literal = false) (value : isValue x = true) :
    readArgument level g x =
      match g.awaiting? with
      | some p => .ok { g with pending := some (p, some x) }
      | none => readPlaced level g x := by
  rw [readArgument, literal, if_neg Bool.false_ne_true]
  split
  · next eq => cases (not_isValue_of_toList eq).symm.trans value
  · next eq => cases (not_isValue_of_toList eq).symm.trans value
  · next eq => cases (not_isValue_of_toList eq).symm.trans value
  · rfl

/-- The parameter that waits takes the next argument. -/
theorem readLevel_value (waits : g.awaiting? = some p) (literal : g.literal = false)
    (value : isValue x = true)
    (rest : List String) :
    readLevel level g (x :: rest) = readLevel level
    { g with pending := some (p, some x) } rest := by
  rw [readLevel_of_busy (by simp [mayName, waits]), readArgument_value literal value, waits]
  rfl

theorem readArgument_long (literal : g.literal = false) {cs : List Char} (nonempty : cs ≠ [])
    (eq : x.toList = '-' :: '-' :: cs) : readArgument level g x = readLong level g cs := by
  obtain ⟨c, others, rfl⟩ := List.exists_cons_of_ne_nil nonempty
  rw [readArgument, literal, if_neg Bool.false_ne_true, eq]
  rfl

theorem readArgument_letters (literal : g.literal = false) {cs : List Char} (nonempty : cs ≠ [])
    (letter : ∀ c ∈ cs.head?, c ≠ '-') (eq : x.toList = '-' :: cs) :
    readArgument level g x = readShorts level g cs := by
  obtain ⟨c, others, rfl⟩ := List.exists_cons_of_ne_nil nonempty
  have other : c ≠ '-' := letter c rfl
  rw [readArgument, literal, if_neg Bool.false_ne_true, eq]
  split
  · next eq => exact absurd (List.cons.inj (List.cons.inj eq).2).1 other
  · next eq => exact absurd (List.cons.inj (List.cons.inj eq).2).1 other
  · next eq =>
    obtain ⟨rfl, rfl⟩ := List.cons.inj (List.cons.inj eq).2
    rfl
  · next plain => exact absurd rfl (plain c others)

/-- The letters of switches turn them on one after the other. -/
theorem readShorts_switches {ss : List Switch}
    (known : ∀ s ∈ ss, s ∈ level.switches ∧ s.short?.isSome = true)
    (holds : g.Holds items) (admitted : Admitted (items ++ ss.map .on)) (cs : List Char) :
    ∃ g', g'.Holds (items ++ ss.map .on) ∧
      readShorts level g (ss.filterMap Switch.short? ++ cs) = readShorts level g' cs := by
  induction ss generalizing g items with
  | nil => exact ⟨g, by simpa using holds, rfl⟩
  | cons s ss ih =>
    obtain ⟨inside, letter⟩ := known s List.mem_cons_self
    obtain ⟨c, letter⟩ := Option.isSome_iff_exists.1 letter
    have regroup : items ++ (s :: ss).map Item.on = items ++ [.on s] ++ ss.map .on := by simp
    rw [regroup] at admitted
    obtain ⟨g', holds', read⟩ :=
      ih (fun t mem => known t (List.mem_cons_of_mem s mem)) (holds_ofItems _) admitted
    refine ⟨g', regroup ▸ holds', ?_⟩
    rw [List.filterMap_cons_some letter, List.cons_append, readShorts,
      shortKey?_short? inside letter, ← read]
    simp only [holds.turnOn admitted.of_append]
    rfl

theorem hyphen_not_mem_letters (ss : List Switch) : '-' ∉ ss.filterMap Switch.short? := by
  intro mem
  obtain ⟨s, -, letter⟩ := List.mem_filterMap.1 mem
  cases s <;> cases letter

/-- Letters are read after their hyphen. -/
theorem readLevel_letters (holds : g.Holds items) {ss : List Switch} {cs : List Char}
    (nonempty : ss.filterMap Switch.short? ++ cs ≠ []) (letter : ∀ c ∈ cs.head?, c ≠ '-')
    (eq : x.toList = '-' :: (ss.filterMap Switch.short? ++ cs)) (rest : List String) :
    readLevel level g (x :: rest) =
      readShorts level g (ss.filterMap Switch.short? ++ cs) >>=
        fun g => readLevel level g rest := by
  have first : ∀ c ∈ (ss.filterMap Switch.short? ++ cs).head?, c ≠ '-' := by
    rintro c mem rfl
    rw [List.head?_append] at mem
    cases head : (ss.filterMap Switch.short?).head? with
    | none =>
      rw [head] at mem
      exact letter '-' mem rfl
    | some d =>
      rw [head] at mem
      obtain rfl : d = '-' := Option.some.inj mem
      exact hyphen_not_mem_letters ss (List.mem_of_head? head)
  obtain ⟨c, others, cons⟩ := List.exists_cons_of_ne_nil nonempty
  rw [readLevel_option (not_isValue_of_toList (cons ▸ eq)),
    readArgument_letters holds.literal nonempty first eq]

theorem readShorts_parameter {c : Char} (key : level.shortKey? c = some (.parameter p)) :
    readShorts level g [c] = g.await p := by
  rw [readShorts, key]
  rfl

theorem readShorts_parameter_equals {c : Char} (key : level.shortKey? c = some (.parameter p))
    (x : String) :
    readShorts level g (c :: '=' :: x.toList) = g.assign p x := by
  rw [readShorts, key]
  show g.assign p (String.ofList x.toList) = _
  rw [String.ofList_toList]

theorem readShorts_parameter_joined {c : Char} (key : level.shortKey? c = some (.parameter p))
    (nonempty : x ≠ "") (front : x.toList.head? ≠ some '=') :
    readShorts level g (c :: x.toList) = g.assign p x := by
  have kept : afterEquals x.toList = x.toList := by
    unfold afterEquals
    split
    · next eq => exact absurd (by rw [eq]; rfl) front
    · rfl
  rw [readShorts, key]
  show (if x.toList = [] then _ else _) = _
  rw [if_neg fun none => nonempty (String.toList_eq_nil_iff.1 none), kept, String.ofList_toList]

/-- A parameter that waits is given the value in the next argument. -/
theorem exists_readLevel_waiting (level : Level) (admitted : Admitted (items ++ [.value p x]))
    (value : isValue x = true) (rest : List String) : ∃ g', g'.Holds (items ++ [.value p x]) ∧
      readLevel level { Given.ofItems items with pending := some (p, none) } (x :: rest) =
        readLevel level g' rest :=
  ⟨_, admitted.holds_pending, readLevel_value rfl rfl value rest⟩

theorem readLevel_switch (known : s ∈ level.switches) (holds : g.Holds items)
    (admitted : Admitted (items ++ [.on s])) (rest : List String) :
    ∃ g', g'.Holds (items ++ [.on s]) ∧
      readLevel level g (("--" ++ s.long) :: rest) = readLevel level g' rest := by
  have chars : ("--" ++ s.long).toList = '-' :: '-' :: s.long.toList := by simp
  have nonempty : s.long.toList ≠ [] := by cases s <;> decide
  refine ⟨_, holds_ofItems _, ?_⟩
  rw [readLevel_option (not_isValue_of_toList chars),
    readArgument_long holds.literal nonempty chars,
    readLong_switch known, holds.turnOn admitted]
  rfl

theorem readLevel_parameter {joint : Joint} (known : p ∈ level.parameters) (long : joint ≠ .joined)
    (kept : joint.Keeps x) (holds : g.Holds items) (admitted : Admitted (items ++ [.value p x]))
    (rest : List String) : ∃ g', g'.Holds (items ++ [.value p x]) ∧
      readLevel level g (joint.texts ("--" ++ p.longName) x ++ rest) = readLevel level g' rest := by
  cases joint with
  | apart =>
    have chars : ("--" ++ p.longName).toList = '-' :: '-' :: p.longName.toList := by simp
    have nonempty : p.longName.toList ≠ [] := by
      revert known
      cases level <;> cases p <;> decide
    obtain ⟨g', holds', read⟩ := exists_readLevel_waiting level admitted kept rest
    refine ⟨g', holds', ?_⟩
    show readLevel level g (("--" ++ p.longName) :: x :: rest) = _
    rw [readLevel_option (not_isValue_of_toList chars),
      readArgument_long holds.literal nonempty chars,
      readLong_parameter known, holds.await, ← read]
    rfl
  | equals =>
    have chars : ("--" ++ p.longName ++ "=" ++ x).toList =
        '-' :: '-' :: (p.longName.toList ++ '=' :: x.toList) := by simp
    refine ⟨_, holds_ofItems _, ?_⟩
    show readLevel level g (("--" ++ p.longName ++ "=" ++ x) :: rest) = _
    rw [readLevel_option (not_isValue_of_toList chars),
      readArgument_long holds.literal (by simp) chars,
      readLong_parameter_equals known, holds.assign admitted]
    rfl
  | joined => exact absurd rfl long

theorem readLevel_switches {ss : List Switch} (nonempty : ss ≠ [])
    (known : ∀ s ∈ ss, s ∈ level.switches ∧ s.short?.isSome = true) (holds : g.Holds items)
    (admitted : Admitted (items ++ ss.map .on)) (rest : List String) :
    ∃ g', g'.Holds (items ++ ss.map .on) ∧
      readLevel level g (switchLetters ss :: rest) = readLevel level g' rest := by
  obtain ⟨g', holds', read⟩ := readShorts_switches known holds admitted []
  have some : ss.filterMap Switch.short? ++ [] ≠ [] := by
    obtain ⟨s, others, rfl⟩ := List.exists_cons_of_ne_nil nonempty
    obtain ⟨c, letter⟩ := Option.isSome_iff_exists.1 (known s List.mem_cons_self).2
    simp [List.filterMap_cons_some letter]
  have chars : (switchLetters ss).toList = '-' :: (ss.filterMap Switch.short? ++ []) := by
    simp [switchLetters]
  refine ⟨g', holds', ?_⟩
  rw [readLevel_letters holds some (by simp) chars, read]
  rfl

theorem readLevel_switches_parameter {ss : List Switch} {joint : Joint}
    (switches : ∀ s ∈ ss, s ∈ level.switches ∧ s.short?.isSome = true)
    (known : p ∈ level.parameters)
    (letter : p.short?.isSome = true) (kept : joint.Keeps x) (holds : g.Holds items)
    (admitted : Admitted (items ++ ss.map .on ++ [.value p x])) (rest : List String) :
    ∃ g', g'.Holds (items ++ ss.map .on ++ [.value p x]) ∧
      readLevel level g (joint.texts (parameterLetters ss p) x ++ rest) =
        readLevel level g' rest := by
  obtain ⟨c, letter⟩ := Option.isSome_iff_exists.1 letter
  have key := shortKey?_short?_parameter known letter
  have other : ∀ cs, ∀ d ∈ (c :: cs).head?, d ≠ '-' := by
    rintro cs d mem rfl
    obtain rfl : c = '-' := Option.some.inj mem
    cases p <;> cases letter
  have before := fun cs => readShorts_switches switches holds admitted.of_append cs
  have some : ∀ cs, ss.filterMap Switch.short? ++ c :: cs ≠ [] := fun cs => by simp
  have name : (parameterLetters ss p).toList = '-' :: (ss.filterMap Switch.short? ++ [c]) := by
    rw [parameterLetters, letter, String.toList_ofList]
    rfl
  cases joint with
  | apart =>
    obtain ⟨g₁, holds₁, read₁⟩ := before [c]
    obtain ⟨g', holds', read'⟩ := exists_readLevel_waiting level admitted kept rest
    refine ⟨g', holds', ?_⟩
    show readLevel level g (parameterLetters ss p :: x :: rest) = _
    rw [readLevel_letters holds (some []) (other []) name, read₁, readShorts_parameter key,
      holds₁.await, ← read']
    rfl
  | equals =>
    obtain ⟨g₁, holds₁, read₁⟩ := before (c :: '=' :: x.toList)
    have chars : (parameterLetters ss p ++ "=" ++ x).toList =
        '-' :: (ss.filterMap Switch.short? ++ c :: '=' :: x.toList) := by simp [name]
    refine ⟨_, holds_ofItems _, ?_⟩
    show readLevel level g ((parameterLetters ss p ++ "=" ++ x) :: rest) = _
    rw [readLevel_letters holds (some _) (other _) chars, read₁, readShorts_parameter_equals key,
      holds₁.assign admitted]
    rfl
  | joined =>
    obtain ⟨g₁, holds₁, read₁⟩ := before (c :: x.toList)
    have chars : (parameterLetters ss p ++ x).toList =
        '-' :: (ss.filterMap Switch.short? ++ c :: x.toList) := by
      simp [name]
    refine ⟨_, holds_ofItems _, ?_⟩
    show readLevel level g ((parameterLetters ss p ++ x) :: rest) = _
    rw [readLevel_letters holds (some _) (other _) chars, read₁,
      readShorts_parameter_joined key kept.1 kept.2,
      holds₁.assign admitted]
    rfl

/-- An argument that is taken by its place is a file. -/
theorem readPlaced_file (holds : g.Holds items) (admitted : Admitted (items ++ [.value .file x])) :
    readPlaced .check g x = .ok { Given.ofItems items with pending := some (.file, some x) } := by
  have absent : g.hasFile = false := by
    rw [← Bool.not_eq_true, holds.hasFile_iff]
    exact admitted.fresh
  rw [readPlaced, absent, if_neg Bool.false_ne_true, holds.settles]
  rfl

theorem readLevel_file (value : isValue x = true) (holds : g.Holds items)
    (admitted : Admitted (items ++ [.value .file x])) (rest : List String) :
    ∃ g', g'.Holds (items ++ [.value .file x]) ∧
    readLevel .check g (x :: rest) = readLevel .check g' rest := by
  refine ⟨_, admitted.holds_pending, ?_⟩
  rw [readLevel_of_busy rfl, readArgument_value holds.literal value, holds.ready]
  show readPlaced .check g x >>= _ = _
  rw [readPlaced_file holds admitted]
  rfl

/-- The arguments of a phrase add what it gives. -/
theorem readLevel_phrase {phrase : Phrase} (fits : phrase.Fits level) (holds : g.Holds items)
    (admitted : Admitted (items ++ phrase.items)) (rest : List String) :
    ∃ g', g'.Holds (items ++ phrase.items) ∧
      readLevel level g (phrase.texts ++ rest) = readLevel level g' rest := by
  cases phrase with
  | switch s => exact readLevel_switch fits holds admitted rest
  | parameter p joint x =>
    obtain ⟨known, long, kept⟩ := fits
    exact readLevel_parameter known long kept holds admitted rest
  | letters ss =>
    obtain ⟨nonempty, known⟩ := fits
    exact readLevel_switches nonempty known holds admitted rest
  | lettersWith ss p joint x =>
    obtain ⟨switches, known, letter, kept⟩ := fits
    rw [Phrase.items, ← List.append_assoc] at admitted ⊢
    exact readLevel_switches_parameter switches known letter kept holds admitted rest
  | file x =>
    obtain ⟨rfl, value⟩ := fits
    exact readLevel_file value holds admitted rest

/-- The arguments of phrases add what all of them give. -/
theorem readLevel_phrases {phrases : List Phrase} (fits : ∀ phrase ∈ phrases, phrase.Fits level)
    (holds : g.Holds items) (admitted : Admitted (items ++ phrases.flatMap Phrase.items))
    (rest : List String) :
    ∃ g', g'.Holds (items ++ phrases.flatMap Phrase.items) ∧
      readLevel level g (phrases.flatMap Phrase.texts ++ rest) = readLevel level g' rest := by
  induction phrases generalizing g items with
  | nil => exact ⟨g, by simpa using holds, rfl⟩
  | cons phrase phrases ih =>
    rw [List.flatMap_cons, ← List.append_assoc] at admitted ⊢
    obtain ⟨g₁, holds₁, read₁⟩ :=
      readLevel_phrase (fits phrase List.mem_cons_self) holds admitted.of_append
      (phrases.flatMap Phrase.texts ++ rest)
    obtain ⟨g', holds', read'⟩ :=
      ih (fun other mem => fits other (List.mem_cons_of_mem phrase mem)) holds₁ admitted
    refine ⟨g', holds', ?_⟩
    rw [List.flatMap_cons, List.append_assoc, read₁, read']

end

/-! ### Parts -/

section

variable {level : Level} {items : List Item} {p : Parameter} {x : String} {g g' : Given}

theorem put_literal (g : Given) (b : Bool) (p : Parameter) (x : String) :
    Given.put { g with literal := b } p x = (g.put p x).map fun g => { g with literal := b } := by
  rw [Given.put, Given.put]
  show (if (g.value? p).isSome then _ else _) = _
  split_ifs <;> rfl

theorem settle_literal (g : Given) (b : Bool) :
    Given.settle { g with literal := b } = g.settle.map fun g => { g with literal := b } := by
  obtain ⟨switches, values, pending, literal⟩ := g
  cases pending with
  | none => rfl
  | some e =>
    obtain ⟨p, value⟩ := e
    cases value with
    | none => rfl
    | some x => exact put_literal ⟨switches, values, none, literal⟩ b p x

/-- What follows the phrases adds what it gives. -/
theorem readLevel_tail {tail : Tail} (fits : tail.Fits level) (holds : g.Holds items)
    (admitted : Admitted (items ++ tail.items)) :
    ∃ g' literal, readLevel level g tail.texts = .ok (g', none) ∧
      g'.settle = .ok { Given.ofItems (items ++ tail.items) with literal := literal } := by
  have settles : Given.settle { g with literal := true } =
      .ok { Given.ofItems items with literal := true } := by
    rw [settle_literal, holds.settles]
    rfl
  have opened : readArgument level g "--" = .ok { g with literal := true } := by
    rw [readArgument, holds.literal, if_neg Bool.false_ne_true]
    rfl
  cases tail with
  | nothing => exact ⟨g, false, rfl, by rw [holds.settles, Tail.items, List.append_nil]; rfl⟩
  | hyphens =>
    refine ⟨{ g with literal := true }, true, ?_, by rw [settles, Tail.items, List.append_nil]⟩
    show readLevel level g ["--"] = _
    rw [readLevel_option rfl, opened]
    rfl
  | file x =>
    obtain rfl : level = .check := fits
    have absent : Given.hasFile { g with literal := true } = false := by
      rw [← Bool.not_eq_true]
      exact fun file => admitted.fresh (holds.hasFile_iff.1 file)
    refine ⟨{ Given.ofItems items with pending := some (.file, some x), literal := true }, true, ?_,
      ?_⟩
    · show readLevel .check g ["--", x] = _
      rw [readLevel_option rfl, opened]
      show readLevel .check { g with literal := true } [x] = _
      rw [readLevel_of_busy rfl, readArgument, if_pos rfl, readPlaced, absent,
        if_neg Bool.false_ne_true, settles]
      rfl
    · have settled :=
        settle_literal { Given.ofItems items with pending := some (.file, some x) } true
      rw [admitted.holds_pending.settles] at settled
      exact settled

/-- The arguments of a part give what its phrases give. -/
theorem readLevel_part {part : Part} (fits : part.Fits level) :
    ∃ g' literal, readLevel level .nothing part.texts = .ok (g', none) ∧
      g'.settle = .ok { Given.ofItems part.items with literal := literal } := by
  obtain ⟨g, holds, read⟩ :=
    readLevel_phrases fits.phrases (holds_ofItems []) fits.admitted.of_append
    part.tail.texts
  obtain ⟨g', literal, read', settles⟩ := readLevel_tail fits.tail holds fits.admitted
  exact ⟨g', literal, read.trans read', settles⟩

end

end CommitLint.CommandLine
