import CommitLint.Storage.Bits

/-!
# Compressed bytes

Compressed bytes come in blocks. A block holds bytes as they are, or symbols written in codes of
varying length, each a byte or a piece of what has been written already, given by its length and its
distance. The codes of a block are the usual ones or are given with it, by the lengths of their
words.
-/

namespace CommitLint.Storage

/-! ### Codes -/

/-- A code whose words are told from each other by their lengths and their order. -/
structure Code where
  /-- The number of words of each length from one on. -/
  counts : List Nat
  /-- The symbols in the order of their words. -/
  symbols : Array Nat

def maxWordSize : Nat := 15

/-- The code in which the word of each symbol has the length that is listed for it; there is none of
length zero. -/
def Code.ofLengths (lengths : List Nat) : Code :=
  let sizes := (List.range maxWordSize).map (· + 1)
  { counts := sizes.map fun size => lengths.count size
    symbols := (sizes.flatMap fun size => (lengths.zipIdx.filter fun e => e.1 = size).map
      Prod.snd).toArray }

namespace BitReader

/-- The symbol of the next word, when the words read so far are shorter than it is: `word` is what
has been read of it, `first` the first word of the length in question, and `index` the number of the
shorter words. -/
def symbolFrom (symbols : Array Nat) (word first index : Nat) : (counts : List Nat) → BitReader Nat
  | [] => failure
  | count :: counts => do
    let word := word + (← bit)
    if word < first + count then
      match symbols[index + (word - first)]? with
      | some found => return found
      | none => failure
    else symbolFrom symbols (2 * word) (2 * (first + count)) (index + count) counts

def symbol (code : Code) : BitReader Nat := symbolFrom code.symbols 0 0 0 code.counts

end BitReader

/-! ### Blocks of symbols -/

/-- A range of numbers: its start, and the number of further bits that tell the number in it. -/
structure Span where
  /-- The least number. -/
  start : Nat
  /-- The number of bits. -/
  extra : Nat

/-- The spans from a start on, one behind the other, with so many bits each. -/
def spansFrom (start : Nat) : List Nat → List Span
  | [] => []
  | extra :: rest => ⟨start, extra⟩ :: spansFrom (start + Nat.pow 2 extra) rest

/-- The spans of lengths. The last stands for one length alone. -/
def lengthSpans : Array Span :=
  (spansFrom 3 [0, 0, 0, 0, 0, 0, 0, 0, 1, 1, 1, 1, 2, 2, 2, 2, 3, 3, 3, 3, 4, 4, 4, 4, 5, 5, 5, 5]
    ++ [(⟨258, 0⟩ : Span)]).toArray

def distanceSpans : Array Span :=
  (spansFrom 1 [0, 0, 0, 0, 1, 1, 2, 2, 3, 3, 4, 4, 5, 5, 6, 6, 7, 7, 8, 8, 9, 9, 10, 10,
    11, 11, 12, 12,
    13, 13]).toArray

/-- What has been written, and then so many bytes of it again, each from the same distance back. -/
def copyBack (out : ByteArray) (distance : Nat) : (length : Nat) → ByteArray
  | 0 => out
  | length + 1 => copyBack (out.push ((out[out.size - distance]?).getD 0)) distance length

namespace BitReader

def inSpan (spans : Array Span) (n : Nat) : BitReader Nat :=
  match spans[n]? with
  | some span => do return span.start + (← bits span.extra)
  | none => failure

def endOfBlock : Nat := 256

/-- What has been written after no more than `n` symbols of a block, up to its end. -/
def symbols (literals distances : Code) : (n : Nat) → ByteArray → BitReader ByteArray
  | 0, _ => failure
  | n + 1, out => do
    let found ← symbol literals
    if found < endOfBlock then symbols literals distances n (out.push (UInt8.ofNat found))
    else if found = endOfBlock then return out
    else
      let length ← inSpan lengthSpans (found - endOfBlock - 1)
      let distance ← inSpan distanceSpans (← symbol distances)
      if distance ≤ out.size then
        symbols literals distances n (copyBack out distance length)
      else failure

def usualCodes : Code × Code :=
  (.ofLengths (List.replicate 144 8 ++ List.replicate 112 9 ++ List.replicate 24 7
    ++ List.replicate 8 8),
    .ofLengths (List.replicate 30 5))

/-- The order in which the lengths of the code of lengths are given. -/
def lengthOrder : List Nat := [16, 17, 18, 0, 8, 7, 9, 6, 10, 5, 11, 4, 12, 3, 13, 2, 14, 1, 15]

/-- Lengths in a code of their own, until there are `wanted`; they are collected last first. A
symbol may stand for the last length or for zero several times. -/
def lengths (code : Code) (wanted : Nat) : (n : Nat) → List Nat → BitReader (List Nat)
  | 0, _ => failure
  | n + 1, found =>
    if found.length = wanted then return found.reverse
    else if wanted < found.length then failure
    else do
      match ← symbol code with
      | 16 =>
        match found with
        | [] => failure
        | last :: _ => do lengths code wanted n (List.replicate (3 + (← bits 2)) last ++ found)
      | 17 => do lengths code wanted n (List.replicate (3 + (← bits 3)) 0 ++ found)
      | 18 => do lengths code wanted n (List.replicate (11 + (← bits 7)) 0 ++ found)
      | length => lengths code wanted n (length :: found)

/-- The codes that are given with a block. -/
def givenCodes : BitReader (Code × Code) := do
  let literals := 257 + (← bits 5)
  let distances := 1 + (← bits 5)
  let given := 4 + (← bits 4)
  let sizes ← (lengthOrder.take given).mapM fun symbol => do return (symbol, ← bits 3)
  let sizeOf (symbol : Nat) : Nat := ((sizes.find? fun e => e.1 = symbol).map Prod.snd).getD 0
  let found ← lengths (.ofLengths ((List.range lengthOrder.length).map sizeOf))
      (literals + distances)
    (literals + distances + 1) []
  return (.ofLengths (found.take literals), .ofLengths (found.drop literals))

/-- What has been written after a block of bytes as they are. -/
def plainBlock (out : ByteArray) : BitReader ByteArray := do
  align
  let size ← bits 16
  let _ ← bits 16
  return out ++ (← wholeBytes size)

/-- What has been written after no more than `n` blocks, up to the last, or once there are `limit`
bytes. -/
def blocks (limit : Nat) : (n : Nat) → ByteArray → BitReader ByteArray
  | 0, _ => failure
  | n + 1, out => do
    let last ← bit
    let kind ← bits 2
    let left := (← get).left
    let out ← match kind with
      | 0 => plainBlock out
      | 1 => symbols usualCodes.1 usualCodes.2 (left + 1) out
      | 2 => do
        let (literals, distances) ← givenCodes
        symbols literals distances (left + 1) out
      | _ => failure
    if last = 1 ∨ limit ≤ out.size then return out else blocks limit n out

end BitReader

/-- The size of what stands before compressed bytes. -/
def headSize : Nat := 2

/-- The bytes that are compressed at an offset. After the block that completes `limit` bytes no more
are read. -/
def inflate? (bytes : ByteArray) (offset limit : Nat) : Option ByteArray :=
  let input : BitInput := ⟨bytes, (offset + headSize) * 8⟩
  ((BitReader.blocks limit (input.left + 1) ByteArray.empty).run input).map Prod.fst

theorem size_copyBack (out : ByteArray) (distance length : Nat) :
    (copyBack out distance length).size = out.size + length := by
  induction length generalizing out with
  | zero => rfl
  | succ length ih =>
    rw [copyBack, ih, ByteArray.size_push]
    omega

end CommitLint.Storage
