import CommitLint.Toml.Value

/-!
# Tables in the making

A document declares its tables piece by piece: under headers, by keys with several parts, and
element after element for an array of tables. A draft remembers how each table came about, which
decides whether it may still be added to:

* a table under a header of its own is complete, and another header for it is refused;
* a table that headers of tables within it brought about may still get a header of its own, and then
  moves to the end;
* a table that keys with several parts brought about is added to by such keys only.
-/

namespace CommitLint.Toml

/-- How a table came about. -/
inductive Origin
  /-- By a header of its own. -/
  | header
  /-- By the header of a table within it. -/
  | ancestor
  /-- By a key with several parts. -/
  | dotted
  deriving DecidableEq, Repr

/-- A value or a table in the making. -/
inductive Draft
  /-- A value, which is complete. -/
  | value (v : Value)
  /-- A table. -/
  | table (origin : Origin) (entries : List (String × Draft))
  /-- An array of tables, the last of which is being filled. -/
  | tables (elements : List (List (String × Draft)))

/-- The entries of a table in the making, in order. -/
abbrev Entries := List (String × Draft)

/-! ### The finished table -/

mutual

def Draft.finish : Draft → Value
  | .value v => v
  | .table _ entries => .table (finishEntries entries)
  | .tables elements => .array (finishElements elements)

def finishEntries : Entries → Table
  | [] => []
  | (key, d) :: rest => (key, d.finish) :: finishEntries rest

/-- The tables that the elements of an array come to. -/
def finishElements : List Entries → List Value
  | [] => []
  | entries :: rest => .table (finishEntries entries) :: finishElements rest

end

/-! ### Adding to a draft -/

/-- A key with its parts, and the value declared under it. -/
structure Assignment where
  /-- The parts before the last. -/
  path : List String
  /-- The last part. -/
  key : String
  /-- The value. -/
  value : Value

/-- The entries after a change to what stands under a key. A new key stands last. -/
def alter? (key : String) (change : Option Draft → Option Draft) : Entries → Option Entries
  | [] => (change none).map fun d => [(key, d)]
  | (k, d) :: rest =>
    if k = key then (change (some d)).map fun d => (k, d) :: rest
    else (alter? key change rest).map ((k, d) :: ·)

/-- The entries after a change to the table at the end of a path. Tables that are missing on the way
are made; on the way of a key with several parts, tables with a header are closed. -/
def alterAt? (dotted : Bool) (change : Origin → Entries → Option Entries) (path : List String)
    (origin : Origin)
    (entries : Entries) : Option Entries :=
  match path with
  | [] => change origin entries
  | key :: rest =>
    alter? key
      (fun
        | none =>
          let made := if dotted then Origin.dotted else .ancestor
          (alterAt? dotted change rest made []).map (.table made)
        | some (.table found inner) =>
          if dotted ∧ found = .header then none
            else (alterAt? dotted change rest found inner).map (.table found)
        | some (.tables elements) => do
          let last ← elements.getLast?
          let changed ← alterAt? dotted change rest .header last
          return .tables (elements.dropLast ++ [changed])
        | some (.value _) => none)
      entries

/-- The entries after one more key, which must be new. -/
def addNew? (key : String) (d : Draft) (entries : Entries) : Option Entries :=
  alter? key (fun
    | none => some d
    | some _ => none) entries

/-- The entries after an assignment. The table at the end of a path must have come about by such
keys. -/
def assign? (entries : Entries) (a : Assignment) : Option Entries :=
  alterAt? true
    (fun origin inner =>
      if a.path ≠ [] ∧ origin ≠ .dotted then none else addNew? a.key (.value a.value) inner)
    a.path .header entries

def assignAll? (entries : Entries) (assignments : List Assignment) : Option Entries :=
  assignments.foldlM assign? entries

/-- A part of a document: assignments under a header. -/
inductive Section
  /-- A table. -/
  | table (path : List String) (key : String) (assignments : List Assignment)
  /-- One more element of an array of tables. -/
  | element (path : List String) (key : String) (assignments : List Assignment)

/-- The entries that a header finds under a key, and the entries without them. -/
def takeOpen? (key : String) (entries : Entries) : Option (Entries × Entries) :=
  match entries.find? fun e => e.1 = key with
  | none => some ([], entries)
  | some (_, .table .ancestor inner) => some (inner, entries.filter fun e => e.1 ≠ key)
  | some _ => none

/-- The document after one more section. -/
def Section.addTo? (document : Entries) : Section → Option Entries
  | .table path key assignments =>
    alterAt? false
      (fun _ parent => do
        let (inner, others) ← takeOpen? key parent
        addNew? key (.table .header (← assignAll? inner assignments)) others)
      path .header document
  | .element path key assignments =>
    alterAt? false
      (fun _ parent => do
        let filled ← assignAll? [] assignments
        alter? key
          (fun
            | none => some (.tables [filled])
            | some (.tables elements) => some (.tables (elements ++ [filled]))
            | some _ => none)
          parent)
      path .header document

/-- The table that assignments without a header and the sections after them come to. -/
def tableOf? (assignments : List Assignment) (sections : List Section) : Option Table := do
  let start ← assignAll? [] assignments
  return finishEntries (← sections.foldlM Section.addTo? start)

end CommitLint.Toml
