import CommitLint.Proofs.PlainValues
import Mathlib

/-!
# Plain documents

A document of comments, empty lines, entries under keys without quotes, and one table under a header
is read as it is written.

* `lineStep_chars` — one line is read, and nothing after it;
* `repeated_lineStep` — so are all lines of a document;
* `parse_section` — the document comes to the entries before the header and the table after them.
-/

namespace CommitLint.Toml

open Text

/-! ### Keys -/

/-- The characters of a key without quotes. -/
def IsBareKey (cs : List Char) : Prop := cs ≠ [] ∧ ∀ c ∈ cs, isBareKeyChar c = true

theorem IsBareKey.head {cs : List Char} (bare : IsBareKey cs) :
    ∃ c others, cs = c :: others ∧ isBareKeyChar c = true := by
  cases cs with
  | nil => exact absurd rfl bare.1
  | cons c others => exact ⟨c, others, rfl, bare.2 c List.mem_cons_self⟩

/-- A character of a key without quotes is none of another kind. -/
theorem ne_of_isBareKeyChar {c mark : Char} (h : isBareKeyChar c = true)
    (other : isBareKeyChar mark = false) :
    c ≠ mark := by
  rintro rfl
  rw [other] at h
  cases h

theorem dropBlanks_bareKey {c : Char} (h : isBareKeyChar c = true) (rest : List Char) :
    dropBlanks (c :: rest) = c :: rest := by
  have : isBlankChar c = false := by
    simp [isBlankChar, ne_of_isBareKeyChar h (show isBareKeyChar ' ' = false by decide),
      ne_of_isBareKeyChar h (show isBareKeyChar '\t' = false by decide)]
  rw [dropBlanks, List.dropWhile_cons_of_neg (by simp [this])]

theorem keyPart_append {cs : List Char} (bare : IsBareKey cs) {d : Char}
    (other : isBareKeyChar d = false)
    (rest : List Char) : keyPart (cs ++ d :: rest) = some (String.ofList cs, d :: rest) := by
  have stop : ∀ c ∈ (d :: rest).head?, isBareKeyChar c = false := by simp [other]
  obtain ⟨taken, left⟩ := Reading.span_append bare.2 stop
  obtain ⟨c, others, eq, hc⟩ := bare.head
  unfold keyPart
  split
  · next start =>
    rw [eq] at start
    exact absurd (List.cons.inj start).1 (ne_of_isBareKeyChar hc (by decide))
  · next start =>
    rw [eq] at start
    exact absurd (List.cons.inj start).1 (ne_of_isBareKeyChar hc (by decide))
  · simp only [taken, left, if_neg bare.1]

theorem keyStep_append {cs : List Char} (bare : IsBareKey cs) {d : Char}
    (other : isBareKeyChar d = false)
    {rest : List Char} (single : ∀ more, dropBlanks (d :: rest) ≠ '.' :: more)
    (found : List String) :
    keyStep found (cs ++ d :: rest) =
      some (.done (String.ofList cs :: found), dropBlanks (d :: rest)) := by
  have front : dropBlanks (cs ++ d :: rest) = cs ++ d :: rest := by
    obtain ⟨c, others, rfl, hc⟩ := bare.head
    exact dropBlanks_bareKey hc _
  rw [keyStep, front, keyPart_append bare other]
  -- No point follows, so that the match below is on its second case.
  simp only [Option.bind_eq_bind, Option.bind_some]
  rfl

/-- A key without quotes is read up to what ends it: blanks, and then no point. -/
theorem key_append {cs : List Char} (bare : IsBareKey cs) {d : Char}
    (other : isBareKeyChar d = false)
    {rest : List Char} (single : ∀ more, dropBlanks (d :: rest) ≠ '.' :: more) :
    key (cs ++ d :: rest) = some (([], String.ofList cs), dropBlanks (d :: rest)) := by
  rw [key, Reading.repeated_of_done (keyStep_append bare other single [])]
  rfl

/-! ### Lines -/

/-- The kinds of lines that a plain document has. -/
inductive PlainLine
  /-- A line without anything. -/
  | blank
  /-- A comment. -/
  | comment (text : String)
  /-- The header of a table. -/
  | header (name : String)
  /-- A key without quotes, and a value as it is written. -/
  | entry (key : String) (v : Value) (written : List Char)

namespace PlainLine

def chars : PlainLine → List Char
  | blank => []
  | comment text => '#' :: text.toList
  | header name => '[' :: (name.toList ++ [']'])
  | entry key _ written => key.toList ++ ' ' :: '=' :: ' ' :: written

/-- Whether a line says what it is meant to. -/
def IsSound : PlainLine → Prop
  | blank => True
  | comment text => ∀ c ∈ text.toList, isPlain c = true
  | header name => IsBareKey name.toList
  | entry key v written => IsBareKey key.toList ∧ Reads maxNesting v written

def addTo (r : Outline) : PlainLine → Outline
  | blank | comment _ => r
  | header name => r.open (.table [] name)
  | entry key v _ => r.assign ⟨[], key, v⟩

end PlainLine

theorem endLine?_comment {cs : List Char} (plain : ∀ c ∈ cs, isPlain c = true) (rest : List Char) :
    endLine? ('#' :: cs ++ '\n' :: rest) = some rest := by
  have left : (cs ++ '\n' :: rest).dropWhile isPlain = '\n' :: rest := by
    rw [List.dropWhile_append_of_pos plain]
    rfl
  show (if (cs ++ '\n' :: rest).dropWhile isPlain = [] then some []
    else afterNewline? ((cs ++ '\n' :: rest).dropWhile isPlain)) = some rest
  rw [left]
  rfl

theorem endLine?_bareKey {c : Char} (h : isBareKeyChar c = true) (rest : List Char) :
    endLine? (c :: rest) = none := by
  have noComment : c ≠ '#' := ne_of_isBareKeyChar h (by decide)
  have noEnd : afterNewline? (c :: rest) = none := by
    unfold afterNewline?
    split
    · next eq => exact absurd (List.cons.inj eq).1 (ne_of_isBareKeyChar h (by decide))
    · next eq => exact absurd (List.cons.inj eq).1 (ne_of_isBareKeyChar h (by decide))
    · rfl
  simp [endLine?, dropBlanks_bareKey h, noComment, noEnd]

theorem lineStep_bareKey (r : Outline) {c : Char} (h : isBareKeyChar c = true) (rest : List Char) :
    lineStep r (c :: rest) = (assignment (value maxNesting) (c :: rest)).bind fun found =>
      (endLine? found.2).bind fun left => some (.more (r.assign found.1), left) := by
  unfold lineStep
  rw [dropBlanks_bareKey h]
  split
  · next eq => cases eq
  · next eq => exact absurd (List.cons.inj eq).1 (ne_of_isBareKeyChar h (by decide))
  · next eq => exact absurd (List.cons.inj eq).1 (ne_of_isBareKeyChar h (by decide))
  · next eq =>
    obtain ⟨rfl, rfl⟩ := List.cons.inj eq
    rw [endLine?_bareKey h]
    rfl

theorem Reads.dropBlanks_append {depth : Nat} {v : Value} {cs : List Char}
    (reads : Reads depth v cs)
    (rest : List Char) :
    dropBlanks (' ' :: (cs ++ rest)) = cs ++ rest := by
  obtain ⟨c, others, rfl, gap⟩ := reads.front
  have : isBlankChar c = false := by
    rw [isGap, decide_eq_false_iff_not] at gap
    simp only [List.mem_cons, List.not_mem_nil, or_false, not_or] at gap
    simp [isBlankChar, gap]
  show dropBlanks (c :: (others ++ rest)) = _
  rw [dropBlanks, List.dropWhile_cons_of_neg (by simp [this]), List.cons_append]

theorem assignment_append {name : String} (bare : IsBareKey name.toList) {v : Value}
    {cs : List Char}
    (reads : Reads maxNesting v cs) {rest : List Char} (h : Stops rest) :
    assignment (value maxNesting) (name.toList ++ ' ' :: '=' :: ' ' :: (cs ++ rest))
      = some (⟨[], name, v⟩, rest) := by
  have single : ∀ more, dropBlanks (' ' :: '=' :: ' ' :: (cs ++ rest)) ≠ '.' :: more := by
    intro more eq
    cases (List.cons.inj eq).1
  rw [assignment, key_append bare (by decide) single, String.ofList_toList]
  show ((value maxNesting (dropBlanks (' ' :: (cs ++ rest)))).bind _) = _
  rw [reads.dropBlanks_append, reads.read rest h]
  rfl

theorem lineStep_header (r : Outline) {name : String} (bare : IsBareKey name.toList)
    (rest : List Char) :
    lineStep r ('[' :: (name.toList ++ ']' :: '\n' :: rest)) =
      some (.more (r.open (.table [] name)), rest) := by
  have single : ∀ more, dropBlanks (']' :: '\n' :: rest) ≠ '.' :: more := by
    intro more eq
    cases (List.cons.inj eq).1
  have read := key_append bare (by decide) single
  have notDouble : ∀ more, name.toList ++ ']' :: '\n' :: rest ≠ '[' :: more := by
    obtain ⟨c, others, eq, hc⟩ := bare.head
    intro more start
    rw [eq] at start
    exact absurd (List.cons.inj start).1 (ne_of_isBareKeyChar hc (by decide))
  have front : ∀ cs, dropBlanks ('[' :: cs) = '[' :: cs := fun _ => rfl
  unfold lineStep
  rw [front]
  split
  · next start => cases start
  · next start => exact absurd (List.cons.inj start).2 (notDouble _)
  · next start =>
    obtain rfl := (List.cons.inj start).2
    rw [read, String.ofList_toList]
    rfl
  · next notHeader start => exact absurd (List.cons.inj start).1.symm notHeader

theorem lineStep_comment (r : Outline) {cs : List Char} (plain : ∀ c ∈ cs, isPlain c = true)
    (rest : List Char) :
    lineStep r ('#' :: cs ++ '\n' :: rest) = some (.more r, rest) := by
  have ended := endLine?_comment plain rest
  have front : dropBlanks ('#' :: cs ++ '\n' :: rest) = '#' :: cs ++ '\n' :: rest := rfl
  unfold lineStep
  rw [front]
  split
  · next eq => cases eq
  · next eq => cases eq
  · next eq => cases eq
  · next eq => rw [← eq, ended]

/-- One line is read, and nothing after it. -/
theorem lineStep_chars (r : Outline) {l : PlainLine} (sound : l.IsSound) (rest : List Char) :
    lineStep r (l.chars ++ '\n' :: rest) = some (.more (l.addTo r), rest) := by
  cases l with
  | blank => rfl
  | comment text => exact lineStep_comment r sound rest
  | header name =>
    have same : PlainLine.chars (.header name) ++ '\n' :: rest
        = '[' :: (name.toList ++ ']' :: '\n' :: rest) := by
      simp [PlainLine.chars]
    rw [same]
    exact lineStep_header r sound rest
  | entry name v written =>
    obtain ⟨bare, reads⟩ := sound
    have assigned := assignment_append bare reads ⟨'\n', by decide, rest, rfl⟩
    have same : PlainLine.chars (.entry name v written) ++ '\n' :: rest
        = name.toList ++ ' ' :: '=' :: ' ' :: (written ++ '\n' :: rest) := by
      simp [PlainLine.chars]
    obtain ⟨c, others, eq, hc⟩ := bare.head
    rw [same]
    rw [eq, List.cons_append] at assigned ⊢
    rw [lineStep_bareKey r hc, assigned]
    rfl

/-! ### Documents -/

/-- The characters of lines. -/
def charsOf (ls : List PlainLine) : List Char := ls.flatMap fun l => l.chars ++ ['\n']

theorem repeated_lineStep {ls : List PlainLine} (sound : ∀ l ∈ ls, l.IsSound) (r : Outline) :
    Reading.repeated lineStep r (charsOf ls) = some (ls.foldl PlainLine.addTo r, []) := by
  induction ls generalizing r with
  | nil => exact Reading.repeated_of_done rfl
  | cons l ls ih =>
    have same : charsOf (l :: ls) = l.chars ++ '\n' :: charsOf ls := by simp [charsOf]
    have step := lineStep_chars r (sound l List.mem_cons_self) (charsOf ls)
    rw [same, Reading.repeated_of_more step (by simp; omega),
      ih fun l mem => sound l (List.mem_cons_of_mem _ mem)]
    rfl

/-- A sound line does not start with the mark of the byte order. -/
theorem head?_charsOf {ls : List PlainLine} (sound : ∀ l ∈ ls, l.IsSound) :
    (charsOf ls).head? ≠ some '\uFEFF' := by
  cases ls with
  | nil => simp [charsOf]
  | cons l ls =>
    have first := sound l List.mem_cons_self
    cases l with
    | blank => simp [charsOf, PlainLine.chars]
    | comment text => simp [charsOf, PlainLine.chars]
    | header name => simp [charsOf, PlainLine.chars]
    | entry name v written =>
      obtain ⟨c, others, eq, hc⟩ := first.1.head
      have : c ≠ '\uFEFF' := ne_of_isBareKeyChar hc (by decide)
      simp [charsOf, PlainLine.chars, eq, this]

theorem dropOrderMark_charsOf {ls : List PlainLine} (sound : ∀ l ∈ ls, l.IsSound) :
    dropOrderMark (charsOf ls) = charsOf ls := by
  have noMark := head?_charsOf sound
  unfold dropOrderMark
  split
  · next eq => simp [eq] at noMark
  · rfl

theorem parse_charsOf {ls : List PlainLine} (sound : ∀ l ∈ ls, l.IsSound) :
    parse (String.ofList (charsOf ls)) = tableOf? (ls.foldl PlainLine.addTo {}).start.reverse
      (ls.foldl PlainLine.addTo {}).allSections.reverse := by
  rw [parse, String.toList_ofList, dropOrderMark_charsOf sound, repeated_lineStep sound]
  rfl

/-! ### Tables -/

theorem addNew?_append {key : String} {entries : Entries} (new : key ∉ entries.map Prod.fst)
    (d : Draft) :
    addNew? key d entries = some (entries ++ [(key, d)]) := by
  unfold addNew?
  induction entries with
  | nil => rfl
  | cons e entries ih =>
    simp only [List.map_cons, List.mem_cons, not_or] at new
    rw [alter?, if_neg (Ne.symm new.1), ih new.2]
    rfl

def plainAssignment (entry : String × Value) : Assignment := ⟨[], entry.1, entry.2⟩

/-- The entries of a table without tables of its own in the making. -/
def complete (table : Table) : Entries := table.map fun entry => (entry.1, .value entry.2)

theorem assignAll?_append {done table : Table} (nodup : ((done ++ table).map Prod.fst).Nodup) :
    assignAll? (complete done) (table.map plainAssignment) = some (complete (done ++ table)) := by
  unfold assignAll?
  induction table generalizing done with
  | nil => simp
  | cons entry table ih =>
    have new : entry.1 ∉ (complete done).map Prod.fst := by
      have := List.nodup_append.1 (List.map_append ▸ nodup)
      intro mem
      simp only [complete, List.map_map] at mem
      exact this.2.2 entry.1 mem entry.1 (by simp) rfl
    have step : assign? (complete done) (plainAssignment entry) =
        some (complete (done ++ [entry])) := by
      show addNew? entry.1 (.value entry.2) (complete done) = _
      rw [addNew?_append new]
      simp [complete]
    rw [List.map_cons, List.foldlM_cons, step]
    have rest := @ih (done ++ [entry]) (by simpa using nodup)
    simpa using rest

theorem finishEntries_complete (table : Table) : finishEntries (complete table) = table := by
  induction table with
  | nil => rfl
  | cons entry table ih =>
    show (entry.1, entry.2) :: finishEntries (complete table) = _
    rw [ih]

theorem finishEntries_append (entries others : Entries) :
    finishEntries (entries ++ others) = finishEntries entries ++ finishEntries others := by
  induction entries with
  | nil => rfl
  | cons e entries ih =>
    show (e.1, e.2.finish) :: finishEntries (entries ++ others) = _
    rw [ih]
    rfl

theorem names_complete (table : Table) : (complete table).map Prod.fst = table.map Prod.fst := by
  rw [complete, List.map_map]
  rfl

/-- Assignments, and after them one table under a header. -/
theorem tableOf?_section {start entries : Table} {name : String}
    (startNodup : (start.map Prod.fst).Nodup)
    (new : name ∉ start.map Prod.fst) (nodup : (entries.map Prod.fst).Nodup) :
    tableOf? (start.map plainAssignment) [.table [] name (entries.map plainAssignment)]
      = some (start ++ [(name, .table entries)]) := by
  have first : assignAll? [] (start.map plainAssignment) = some (complete start) :=
    @assignAll?_append [] start startNodup
  have inner : assignAll? [] (entries.map plainAssignment) = some (complete entries) :=
    @assignAll?_append [] entries nodup
  have new' : name ∉ (complete start).map Prod.fst := by rwa [names_complete]
  have free : takeOpen? name (complete start) = some ([], complete start) := by
    have none : (complete start).find? (fun e => e.1 = name) = none := by
      rw [List.find?_eq_none]
      intro e mem eq
      exact new' (List.mem_map.2 ⟨e, mem, by simpa using eq⟩)
    rw [takeOpen?, none]
  have added : Section.addTo? (complete start) (.table [] name (entries.map plainAssignment))
      = some (complete start ++ [(name, .table .header (complete entries))]) := by
    show ((takeOpen? name (complete start)).bind _) = _
    rw [free]
    show ((assignAll? [] (entries.map plainAssignment)).bind fun filled =>
      addNew? name (.table .header filled) (complete start)) = _
    rw [inner]
    exact addNew?_append new' _
  rw [tableOf?, first]
  show (([Section.table [] name (entries.map plainAssignment)].foldlM Section.addTo?
      (complete start)).bind _) = _
  rw [List.foldlM_cons, added]
  show some (finishEntries (complete start ++ [(name, .table .header (complete entries))])) = _
  rw [finishEntries_append, finishEntries_complete]
  show some (start ++ [(name, .table (finishEntries (complete entries)))]) = _
  rw [finishEntries_complete]

namespace PlainLine

/-- The entry that a line adds to its table. -/
def entry? : PlainLine → Option (String × Value)
  | entry key v _ => some (key, v)
  | _ => none

/-- Whether a line is the header of a table. -/
def isHeader : PlainLine → Bool
  | header _ => true
  | _ => false

end PlainLine

/-- The entries that lines add to a table. -/
def entriesOf (ls : List PlainLine) : Table := ls.filterMap PlainLine.entry?

theorem foldl_addTo {ls : List PlainLine} (noHeader : ∀ l ∈ ls, l.isHeader = false) (r : Outline) :
    ls.foldl PlainLine.addTo r = ((entriesOf ls).map plainAssignment).foldl Outline.assign r := by
  induction ls generalizing r with
  | nil => rfl
  | cons l ls ih =>
    have others := fun m mem => noHeader m (List.mem_cons_of_mem l mem)
    cases l with
    | blank => exact ih others r
    | comment text => exact ih others r
    | header name => cases noHeader _ List.mem_cons_self
    | entry key v written => exact ih others (r.assign ⟨[], key, v⟩)

theorem foldl_assign_start (r : Outline) (h : r.current = none) (assignments : List Assignment) :
    assignments.foldl Outline.assign r = { r with start := assignments.reverse ++ r.start } := by
  induction assignments generalizing r with
  | nil => rfl
  | cons a assignments ih =>
    have step : r.assign a = { r with start := a :: r.start } := by simp only [Outline.assign, h]
    rw [List.foldl_cons, step, ih { r with start := a :: r.start } h]
    simp

theorem foldl_assign_section (r : Outline) {close : List Assignment → Section}
    (h : r.current = some close)
    (assignments : List Assignment) :
    assignments.foldl Outline.assign r = { r with assignments :=
      assignments.reverse ++ r.assignments } := by
  induction assignments generalizing r with
  | nil => rfl
  | cons a assignments ih =>
    have step : r.assign a = { r with assignments := a :: r.assignments } := by
      simp only [Outline.assign, h]
    rw [List.foldl_cons, step, ih { r with assignments := a :: r.assignments } h]
    simp

/-- A document of entries and one table after them is read as it is written. -/
theorem parse_section {start entries : List PlainLine} {name : String}
    (startSound : ∀ l ∈ start, l.IsSound) (bare : IsBareKey name.toList)
    (sound : ∀ l ∈ entries, l.IsSound) (startPlain : ∀ l ∈ start, l.isHeader = false)
    (plain : ∀ l ∈ entries, l.isHeader = false)
    (startNodup : ((entriesOf start).map Prod.fst).Nodup)
    (new : name ∉ (entriesOf start).map Prod.fst)
    (nodup : ((entriesOf entries).map Prod.fst).Nodup) :
    parse (String.ofList (charsOf (start ++ .header name :: entries)))
      = some (entriesOf start ++ [(name, .table (entriesOf entries))]) := by
  have all : ∀ l ∈ start ++ .header name :: entries, l.IsSound := by
    intro l mem
    rcases List.mem_append.1 mem with mem | mem
    · exact startSound l mem
    · rcases List.mem_cons.1 mem with rfl | mem
      · exact bare
      · exact sound l mem
  have table := tableOf?_section startNodup new nodup
  rw [parse_charsOf all, List.foldl_append, List.foldl_cons, foldl_addTo startPlain,
    foldl_assign_start {} rfl, foldl_addTo plain]
  rw [foldl_assign_section _ rfl]
  simpa [Outline.allSections, PlainLine.addTo, Outline.open] using table

end CommitLint.Toml
