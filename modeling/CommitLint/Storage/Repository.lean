import CommitLint.Storage.Pack
import CommitLint.Text.Blank

/-!
# Stored repositories

References are stored one to a file, or many in one file of lines; the head is a file too, and holds
an identifier or the name of a reference. `History.ofStored` is what a repository records, with its
newest commits first.
-/

namespace CommitLint.Storage

/-- The digits that a file of one reference starts with, as an identifier. -/
def referenceOf? (text : String) : Option ObjectId := ObjectId.ofDigits? (text.take idSize).toString

/-- The mark before the name of a reference in the file of the head. -/
def attachedMark : String := "ref: "

def headIn? (text : String) : Option Head :=
  if Text.startsWith text attachedMark then
    some (.attached (Text.trim (String.ofList (text.toList.drop attachedMark.length))))
  else (referenceOf? text).map .detached

/-- The references that lines hold, each an identifier, a blank and a name. -/
def packedReferences (text : String) : List (String × ObjectId) :=
  (Text.lines text).filterMap fun line => do
    let id ← referenceOf? line
    if line.toList[idSize]? ≠ some ' ' then failure
    return (String.ofList (line.toList.drop (idSize + 1)), id)

/-- Whether a revision may lead to an object: commits and tags, and the trees that commits stand
for. -/
def isOfUse (trees : List ObjectId) (e : ObjectId × Stored) : Bool :=
  match e.2.kind with
  | .commit => true
  | .tag => true
  | .tree => trees.contains e.1
  | .blob => false

end CommitLint.Storage

namespace CommitLint

open Storage

/-- What a repository records, given its objects, its references, those that count first, and its
head. -/
def History.ofStored (objects : List (ObjectId × Stored)) (references : List (String × ObjectId))
    (head : Head) :
    History :=
  let commits :=
    objects.filterMap fun e => if e.2.kind = .commit then commitOf? e.2.content else none
  let trees := commits.map (·.tree)
  let useful := (objects.filter (isOfUse trees)).mergeSort fun a b => a.2.time ≤ b.2.time
  let recorded := useful.foldl
    (fun h e => match e.2.object? with
      | some o => h.addObject e.1 o
      | none => h)
    History.initial
  { recorded with references := references, head := head }

end CommitLint
