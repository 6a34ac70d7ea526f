import CommitLint.Storage.Record

/-!
# Packs

A pack holds many objects, each compressed at an offset of its own; an index lists their identifiers
with the offsets. An object may be stored as what has to be changed in another one, its base.
-/

namespace CommitLint.Storage

/-! ### Numbers -/

/-- The byte at an offset, or zero where there is none. -/
def byteAt (bytes : ByteArray) (offset : Nat) : Nat := ((bytes[offset]?).map UInt8.toNat).getD 0

/-- The number that so many bytes hold, the highest first. -/
def numberAt (bytes : ByteArray) (offset size : Nat) : Nat :=
  (List.range size).foldl (fun n i => n * 256 + byteAt bytes (offset + i)) 0

/-- The number in groups of seven bits, the lowest first, and the offset after it. All bytes but the
last are marked by their highest bit; there are no more than `n`. -/
def groupsAt (bytes : ByteArray) : (n : Nat) → (offset : Nat) → Nat × Nat
  | 0, offset => (0, offset)
  | n + 1, offset =>
    let b := byteAt bytes offset
    if b < 128 then (b, offset + 1)
    else
      let (high, after) := groupsAt bytes n (offset + 1)
      (b - 128 + 128 * high, after)

/-- The number of bytes that a number in groups may have. -/
def maxGroups : Nat := 10

/-- The distance back to a base, and the offset after it. The highest group comes first, and each
group but the last adds one. -/
def distanceAt (bytes : ByteArray) : (n high offset : Nat) → Nat × Nat
  | 0, high, offset => (high, offset)
  | n + 1, high, offset =>
    let b := byteAt bytes offset
    if b < 128 then (high * 128 + b, offset + 1) else distanceAt bytes n
      (high * 128 + (b - 128) + 1) (offset + 1)

def idBytes : Nat := 20

def idAt? (bytes : ByteArray) (offset : Nat) : Option ObjectId :=
  ObjectId.ofDigits? (String.ofList ((List.range idBytes).flatMap fun i =>
    let b := byteAt bytes (offset + i)
    [Nat.digitChar (b / 16), Nat.digitChar (b % 16)]))

/-! ### The index -/

/-- Where the objects of a pack stand. -/
structure PackIndex where
  /-- The identifiers and their offsets. -/
  entries : List (ObjectId × Nat)

namespace PackIndex

/-- Where the table of counts starts, after the mark and the number of the format. -/
def countsOffset : Nat := 8

/-- Where the identifiers start, after a count for each first byte. -/
def idsOffset : Nat := countsOffset + 256 * 4

/-- The index in some bytes: all identifiers, then checksums of four bytes, then offsets of four
bytes. An offset that has its highest bit set is the number of a longer one that follows them
all. -/
def ofBytes (bytes : ByteArray) : PackIndex :=
  let count := numberAt bytes (idsOffset - 4) 4
  let offsets := idsOffset + count * (idBytes + 4)
  let longOffsets := offsets + count * 4
  ⟨(List.range count).filterMap fun i => do
    let id ← idAt? bytes (idsOffset + i * idBytes)
    let offset := numberAt bytes (offsets + i * 4) 4
    return (id, if offset < 0x80000000 then offset
      else numberAt bytes (longOffsets + (offset - 0x80000000) * 8) 8)⟩

def offset? (index : PackIndex) (id : ObjectId) : Option Nat :=
  (index.entries.find? fun e => e.1 = id).map Prod.snd

end PackIndex

/-! ### Changes -/

/-- The bytes that a selection of groups gives for a number, each where its bit of `mask` is set,
and the offset after them. -/
def chosenBytes (bytes : ByteArray) (mask : Nat) : (n : Nat) → (offset : Nat) → Nat × Nat
  | 0, offset => (0, offset)
  | n + 1, offset =>
    let chosen := mask % 2 = 1
    let (high, after) := chosenBytes bytes (mask / 2) n (if chosen then offset + 1 else offset)
    ((if chosen then byteAt bytes offset else 0) + 256 * high, after)

/-- What comes of a base by no more than `n` changes from an offset on: pieces of the base, and new
bytes. -/
def changed (base changes : ByteArray) : (n offset : Nat) → ByteArray → ByteArray
  | 0, _, out => out
  | n + 1, offset, out =>
    if changes.size ≤ offset then out
    else
      let b := byteAt changes offset
      if b < 128 then
        changed base changes n (offset + 1 + b)
          (out ++ changes.extract (offset + 1) (offset + 1 + b))
      else
        let (start, after) := chosenBytes changes b 4 (offset + 1)
        let (size, after) := chosenBytes changes (b / 16 % 8) 3 after
        let size := if size = 0 then 0x10000 else size
        changed base changes n after (out ++ base.extract start (start + size))

/-- What comes of a base by changes, which start with the sizes of both. -/
def applyChanges (base changes : ByteArray) : ByteArray :=
  let (_, offset) := groupsAt changes maxGroups 0
  let (_, offset) := groupsAt changes maxGroups offset
  changed base changes changes.size offset ByteArray.empty

/-! ### Entries -/

/-- What an entry of a pack holds. -/
inductive Entry
  /-- An object, compressed at an offset. -/
  | whole (kind : ObjectKind) (offset : Nat)
  /-- The changes to the entry at `base`, compressed at an offset. -/
  | delta (base offset : Nat)

/-- The entry at an offset. -/
def entryAt? (pack : ByteArray) (index : PackIndex) (offset : Nat) : Option Entry :=
  let (_, after) := groupsAt pack maxGroups offset
  match byteAt pack offset / 16 % 8 with
  | 1 => some (.whole .commit after)
  | 2 => some (.whole .tree after)
  | 3 => some (.whole .blob after)
  | 4 => some (.whole .tag after)
  | 6 =>
    let (distance, after) := distanceAt pack maxGroups 0 after
    some (.delta (offset - distance) after)
  | 7 => do
    let base ← index.offset? (← idAt? pack after)
    return .delta base (after + idBytes)
  | _ => none

/-- The object at an offset, when no more than `n` others have to be read for it. The content of
trees and blobs is left out. -/
def packedAt? (pack : ByteArray) (index : PackIndex) : (n offset : Nat) → Option Stored
  | 0, _ => none
  | n + 1, offset => do
    match ← entryAt? pack index offset with
    | .whole kind start =>
      if kind = .tree ∨ kind = .blob then return ⟨kind, ByteArray.empty⟩
      return ⟨kind, ← inflate? pack start maxObjectSize⟩
    | .delta base start =>
      let found ← packedAt? pack index n base
      if found.kind = .tree ∨ found.kind = .blob then return found
      return ⟨found.kind, applyChanges found.content (← inflate? pack start maxObjectSize)⟩

/-- The number of objects that an object may rest on. -/
def maxChain : Nat := 5000

def packedIn (pack : ByteArray) (index : PackIndex) : List (ObjectId × Stored) :=
  index.entries.filterMap fun (id, offset) =>
    (packedAt? pack index maxChain offset).map fun stored => (id, stored)

end CommitLint.Storage
