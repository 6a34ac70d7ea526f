import CommitLint.Toml.Draft
import CommitLint.Toml.Lexeme

/-!
# Documents

A document is a sequence of lines with assignments and headers. `parse` reads one and builds its
table.
-/

namespace CommitLint.Toml

open Text

/-! ### Values -/

/-- One item of an array with the comma after it, or the closing bracket. -/
def arrayStep (value : Reader Value) (found : List Value) (cs : List Char) :
    Option (Step (List Value) (List Value) × List Char) := do
  match ← dropGaps? false cs with
  | ']' :: rest => return (.done found.reverse, rest)
  | cs =>
    let (item, left) ← value cs
    match ← dropGaps? false left with
    | ',' :: rest => return (.more (item :: found), rest)
    | ']' :: rest => return (.done (item :: found).reverse, rest)
    | _ => none

/-- The items of an array, after its opening bracket. A comma may follow the last. -/
def arrayItems (value : Reader Value) : Reader (List Value) :=
  Reading.repeated (arrayStep value) []

def assignment (value : Reader Value) : Reader Assignment := fun cs => do
  let ((path, last), left) ← key cs
  let (v, left) ← value (dropBlanks (← afterChar? '=' left))
  return (⟨path, last, v⟩, left)

/-- The assignments of a table on one line, after its opening brace. No comma follows the last. -/
def inlineAssignments (value : Reader Value) (cs : List Char) :
    Option (List Assignment × List Char) :=
  match dropBlanks cs with
  | '\x7d' :: rest => some ([], rest)
  | cs =>
    Reading.repeated
      (fun found cs => do
        let (a, left) ← assignment value cs
        match dropBlanks left with
        | ',' :: rest => return (.more (a :: found), rest)
        | '\x7d' :: rest => return (.done (a :: found).reverse, rest)
        | _ => none)
      [] cs

/-- A value in which arrays and tables stand within each other at most `depth` times. -/
def value : (depth : Nat) → Reader Value
  | 0, cs => scalar cs
  | depth + 1, cs =>
    match cs with
    | '[' :: rest => (arrayItems (value depth) rest).map fun (items, left) => (.array items, left)
    | '\x7b' :: rest => do
      let (assignments, left) ← inlineAssignments (value depth) rest
      return (.table (← tableOf? assignments []), left)
    | cs => scalar cs
where
  /-- A value that holds no others. -/
  scalar : Reader Value
    | 't' :: 'r' :: 'u' :: 'e' :: rest => some (.boolean true, rest)
    | 'f' :: 'a' :: 'l' :: 's' :: 'e' :: rest => some (.boolean false, rest)
    | 'i' :: rest => float ('i' :: rest)
    | 'n' :: rest => float ('n' :: rest)
    | '"' :: rest => (text ('"' :: rest)).map fun (s, left) => (.string s, left)
    | '\'' :: rest => (text ('\'' :: rest)).map fun (s, left) => (.string s, left)
    | cs => number cs

/-! ### Lines -/

/-- A document as far as it has been read. -/
structure Outline where
  /-- The sections that are complete, last first. -/
  sections : List Section := []
  /-- How the current section becomes complete; the first one has no header. -/
  current : Option (List Assignment → Section) := none
  /-- The assignments before the first header, last first. -/
  start : List Assignment := []
  /-- The assignments of the current section, last first. -/
  assignments : List Assignment := []

/-- The sections including the current one, last first. -/
def Outline.allSections (r : Outline) : List Section :=
  match r.current with
  | none => r.sections
  | some complete => complete r.assignments.reverse :: r.sections

def Outline.assign (r : Outline) (a : Assignment) : Outline :=
  match r.current with
  | none => { r with start := a :: r.start }
  | some _ => { r with assignments := a :: r.assignments }

def Outline.open (r : Outline) (complete : List Assignment → Section) : Outline :=
  { r with sections := r.allSections, current := some complete, assignments := [] }

/-- One line. -/
def lineStep (r : Outline) (cs : List Char) : Option (Step Outline Outline × List Char) :=
  match dropBlanks cs with
  | [] => some (.done r, [])
  | '[' :: '[' :: rest => do
    let ((path, last), left) ← key rest
    let left ← endLine? (← Reading.after? [']', ']'] left)
    return (.more (r.open (.element path last)), left)
  | '[' :: rest => do
    let ((path, last), left) ← key rest
    let left ← endLine? (← afterChar? ']' left)
    return (.more (r.open (.table path last)), left)
  | c :: rest =>
    match endLine? (c :: rest) with
    | some left => some (.more r, left)
    | none => do
      let (a, left) ← assignment (value maxNesting) (c :: rest)
      return (.more (r.assign a), ← endLine? left)

/-- Characters without a mark of the byte order at the front. -/
def dropOrderMark : List Char → List Char
  | '\uFEFF' :: rest => rest
  | cs => cs

/-- The table of a document. A mark of the byte order at the front does not count. -/
def parse (document : String) : Option Table := do
  let (r, _) ← Reading.repeated lineStep {} (dropOrderMark document.toList)
  tableOf? r.start.reverse r.allSections.reverse

end CommitLint.Toml
