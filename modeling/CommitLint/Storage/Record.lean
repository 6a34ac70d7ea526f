import CommitLint.History.Object
import CommitLint.Storage.Inflate
import CommitLint.Text.Affix
import CommitLint.Text.Lines

/-!
# Stored objects

An object is stored as its kind and its content. A commit's content has lines of fields, an empty
line and the message; a tag's has such lines too. An object that is stored alone has its kind and
its size before its content, and all of it is compressed.
-/

namespace CommitLint.Storage

/-- An object as it is stored. -/
structure Stored where
  /-- Its kind. -/
  kind : ObjectKind
  /-- Its content. -/
  content : ByteArray

/-- The characters whose code points are some bytes. -/
def plainChars (bytes : ByteArray) : List Char := bytes.data.toList.map fun b => Char.ofNat b.toNat

/-! ### Content -/

/-- The characters of the fields, up to the empty line. -/
def fieldChars (content : ByteArray) : List Char :=
  match Text.splitAtFirst? ['\n', '\n'] (plainChars content) with
  | some (fields, _) => fields
  | none => plainChars content

/-- The values of all fields with a name, in order. -/
def fieldValues (content : ByteArray) (name : String) : List String :=
  (Text.lines (String.ofList (fieldChars content))).filterMap fun line =>
    if Text.startsWith line (name ++ " ") then
      some (String.ofList (line.toList.drop (name.length + 1)))
    else none

/-- What follows the fields and the empty line. -/
def afterFields (content : ByteArray) : ByteArray :=
  content.extract ((fieldChars content).length + 2) content.size

def commitOf? (content : ByteArray) : Option Commit := do
  let tree ← (fieldValues content "tree").head?.bind ObjectId.ofDigits?
  let parents ← (fieldValues content "parent").mapM ObjectId.ofDigits?
  return ⟨tree, parents, afterFields content⟩

def Stored.object? (stored : Stored) : Option Object :=
  match stored.kind with
  | .commit => (commitOf? stored.content).map .commit
  | .tag => ((fieldValues stored.content "object").head?.bind ObjectId.ofDigits?).map .tag
  | .tree => some .tree
  | .blob => some .blob

/-- The time at which a commit was recorded, in seconds: the number before the time zone. -/
def Stored.time (stored : Stored) : Nat :=
  match (fieldValues stored.content "committer").head?.map fun value =>
    (value.splitOn " ").reverse with
  | some (_ :: seconds :: _) => seconds.toNat?.getD 0
  | _ => 0

/-! ### Objects that are stored alone -/

/-- The number of bytes after which an object is read no further. -/
def maxObjectSize : Nat := 0x40000000

/-- The greatest size of what stands before the content. -/
def maxHeadSize : Nat := 32

/-- The kind at the start of bytes, and the size of what stands before the content. -/
def headOf? (bytes : ByteArray) : Option (ObjectKind × Nat) := do
  let (head, _) ← Text.splitAtFirst? ['\x00'] (plainChars (bytes.extract 0 maxHeadSize))
  let kind ← ObjectKind.ofName? (String.ofList (head.takeWhile (· ≠ ' ')))
  return (kind, head.length + 1)

/-- The object that compressed bytes hold. The content of trees and blobs is left out. -/
def aloneIn? (bytes : ByteArray) : Option Stored := do
  let (kind, size) ← headOf? (← inflate? bytes 0 maxHeadSize)
  if kind = .tree ∨ kind = .blob then return ⟨kind, ByteArray.empty⟩
  let whole ← inflate? bytes 0 maxObjectSize
  return ⟨kind, whole.extract size whole.size⟩

end CommitLint.Storage
