/-!
# Bytes read bit by bit

Stored objects are compressed, and compressed bytes are read bit by bit. The lowest bit of a byte
comes first, and of a number the lowest bit comes first too. Reading fails where the bytes end.
-/

namespace CommitLint.Storage

/-- Bytes and how far they have been read. -/
structure BitInput where
  /-- The bytes. -/
  bytes : ByteArray
  /-- The number of bits that have been read. -/
  position : Nat

namespace BitInput

def left (input : BitInput) : Nat := input.bytes.size * 8 - input.position

end BitInput

/-- A reading of bits, which may fail. -/
abbrev BitReader := StateT BitInput Option

namespace BitReader

def bit : BitReader Nat := fun input =>
  match input.bytes[input.position / 8]? with
  | some byte =>
    some (byte.toNat >>> (input.position % 8) % 2, { input with position := input.position + 1 })
  | none => none

def bits : (n : Nat) → BitReader Nat
  | 0 => return 0
  | n + 1 => do
    let low ← bit
    return low + 2 * (← bits n)

def align : BitReader Unit :=
  fun input => some ((), { input with position := (input.position + 7) / 8 * 8 })

/-- So many whole bytes, from where the next one starts. -/
def wholeBytes (n : Nat) : BitReader ByteArray := fun input =>
  let start := input.position / 8
  if input.bytes.size < start + n then none
  else some (input.bytes.extract start (start + n),
    { input with position := input.position + n * 8 })

end BitReader

end CommitLint.Storage
