import CommitLint.Text.Utf8

/-!
# Objects of a repository

What a repository records: commits, the trees they stand for, and tags that point to other objects,
each under an identifier of forty hexadecimal digits. Names refer to objects; the head is a name or,
when detached, an object.
-/

namespace CommitLint

/-! ### Identifiers -/

/-- Whether a character is a hexadecimal digit as identifiers are written. -/
def isIdDigit (c : Char) : Bool := c.isDigit || (decide ('a' ≤ c) && decide (c ≤ 'f'))

def idSize : Nat := 40

/-- The identifier of an object. -/
structure ObjectId where
  /-- The digits. -/
  digits : String
  /-- There are as many as there must be. -/
  size : digits.length = idSize
  /-- They are digits. -/
  hex : digits.toList.all isIdDigit = true
  deriving DecidableEq

def ObjectId.ofDigits? (digits : String) : Option ObjectId :=
  if h : digits.length = idSize ∧
  digits.toList.all isIdDigit = true then some ⟨digits, h.1, h.2⟩ else none

theorem ObjectId.ofDigits?_digits (id : ObjectId) : ofDigits? id.digits = some id := by
  simp [ofDigits?, id.size, id.hex]

/-! ### Objects -/

/-- Messages are compared byte by byte. -/
local instance decidableEqRecorded : DecidableEq ByteArray := ByteArray.instDecidableEq

/-- A commit. -/
structure Commit where
  /-- The tree it stands for. -/
  tree : ObjectId
  /-- The commits it was made from. -/
  parents : List ObjectId
  /-- The message as it was recorded. -/
  message : ByteArray
  deriving DecidableEq

/-- The bytes of a message without the line feeds at its start and without what follows a zero
byte. -/
def messageBytes (recorded : List UInt8) : List UInt8 :=
  (recorded.dropWhile (· = 10)).takeWhile (· ≠ 0)

def Commit.text (c : Commit) : String :=
  Text.decodeLossy ⟨(messageBytes c.message.data.toList).toArray⟩

/-- Whether the message of a commit is a text as it stands. -/
def Commit.isText (c : Commit) : Bool :=
  (String.fromUTF8? ⟨(messageBytes c.message.data.toList).toArray⟩).isSome

/-- The kinds of objects. -/
inductive ObjectKind
  | commit
  | tree
  | blob
  | tag
  deriving DecidableEq, Repr

namespace ObjectKind

def name : ObjectKind → String
  | commit => "commit"
  | tree => "tree"
  | blob => "blob"
  | tag => "tag"

def number : ObjectKind → Nat
  | commit => 1
  | tree => 2
  | blob => 3
  | tag => 4

def ofName? (s : String) : Option ObjectKind :=
  [commit, tree, blob, tag].find? fun kind => kind.name = s

theorem ofName?_name (kind : ObjectKind) : ofName? kind.name = some kind := by cases kind <;> decide

end ObjectKind

/-- An object. Of trees and blobs the content does not matter here. -/
inductive Object
  /-- A commit. -/
  | commit (c : Commit)
  /-- A directory as it was recorded. -/
  | tree
  /-- A file as it was recorded. -/
  | blob
  /-- A tag on another object. -/
  | tag (target : ObjectId)
  deriving DecidableEq

def Object.kind : Object → ObjectKind
  | commit _ => .commit
  | tree => .tree
  | blob => .blob
  | tag _ => .tag

/-! ### Histories -/

/-- What new commits are added to. -/
inductive Head
  /-- A reference, which may not exist yet. -/
  | attached (reference : String)
  /-- A commit itself. -/
  | detached (id : ObjectId)
  deriving DecidableEq

/-- What a repository records. -/
structure History where
  /-- The objects, the newest first. -/
  objects : List (ObjectId × Object)
  /-- No identifier stands twice. -/
  nodup : (objects.map Prod.fst).Nodup
  /-- The references with their full names. -/
  references : List (String × ObjectId)
  /-- The head. -/
  head : Head
  deriving DecidableEq

namespace History

def headName : String := "HEAD"

def initial : History := ⟨[], by simp, [], .attached "refs/heads/main"⟩

def object? (h : History) (id : ObjectId) : Option Object :=
  (h.objects.find? fun e => e.1 = id).map Prod.snd

def commit? (h : History) (id : ObjectId) : Option Commit :=
  match h.object? id with
  | some (.commit c) => some c
  | _ => none

/-- The identifiers of all commits, the newest first. -/
def commitIds (h : History) : List ObjectId :=
  (h.objects.map Prod.fst).filter fun id => (h.commit? id).isSome

def parents (h : History) (id : ObjectId) : List ObjectId :=
  ((h.commit? id).map Commit.parents).getD []

/-- What a reference refers to, by its full name. -/
def reference? (h : History) (name : String) : Option ObjectId :=
  (h.references.find? fun e => e.1 = name).map Prod.snd

/-- What the head or a reference refers to, by its full name. -/
def target? (h : History) (name : String) : Option ObjectId :=
  if name = headName then
    match h.head with
    | .attached reference => h.reference? reference
    | .detached id => some id
  else h.reference? name

def without (h : History) (id : ObjectId) : List (ObjectId × Object) :=
  h.objects.filter fun e => e.1 ≠ id

theorem nodup_without (h : History) (id : ObjectId) : ((h.without id).map Prod.fst).Nodup :=
  h.nodup.sublist (List.filter_sublist.map _)

theorem not_mem_without (h : History) (id : ObjectId) : id ∉ (h.without id).map Prod.fst := by
  simp [without]

/-- The history with one more object, now the newest. -/
def addObject (h : History) (id : ObjectId) (o : Object) : History where
  objects := (id, o) :: h.without id
  nodup := List.nodup_cons.2 ⟨h.not_mem_without id, h.nodup_without id⟩
  references := h.references
  head := h.head

def dropObject (h : History) (id : ObjectId) : History where
  objects := h.without id
  nodup := h.nodup_without id
  references := h.references
  head := h.head

/-- The history in which a name refers to an object. -/
def setReference (h : History) (name : String) (id : ObjectId) : History :=
  if name = headName then { h with head := .detached id }
  else { h with references := (name, id) :: h.references.filter fun e => e.1 ≠ name }

/-- The history in which the head refers to an object, by the reference that it is attached to if
there is one. -/
def moveHead (h : History) (id : ObjectId) : History :=
  match h.head with
  | .attached name => h.setReference name id
  | .detached _ => { h with head := .detached id }

theorem nodup_commitIds (h : History) : h.commitIds.Nodup := h.nodup.sublist List.filter_sublist

theorem mem_commitIds_iff (h : History) (id : ObjectId) :
    id ∈ h.commitIds ↔ (h.commit? id).isSome = true := by
  rw [commitIds, List.mem_filter]
  refine ⟨And.right, fun found => ⟨?_, found⟩⟩
  cases lookup : h.objects.find? fun e => e.1 = id with
  | none => simp [commit?, object?, lookup] at found
  | some e =>
    have same : e.1 = id := by simpa using List.find?_some lookup
    exact List.mem_map.2 ⟨e, List.mem_of_find?_eq_some lookup, same⟩

end History

end CommitLint
