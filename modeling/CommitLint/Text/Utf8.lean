/-!
# Texts from bytes

Bytes that are not the encoding of a text are read with a replacement character for each piece that
starts no character, and for each start of a character that is not completed.
-/

namespace CommitLint.Text

/-- What the first byte of a character says: the bits it holds, how many bytes follow, and the
bounds of the next. -/
structure Lead where
  /-- The bits of the first byte. -/
  bits : Nat
  /-- The number of bytes that follow. -/
  more : Nat
  /-- The least next byte. -/
  low : Nat
  /-- The greatest next byte. -/
  high : Nat

/-- Reads the first byte of a character. Bounds that are narrower than usual keep out second forms
of a character, surrogates, and what lies beyond all characters. -/
def lead? (b : Nat) : Option Lead :=
  if b < 0x80 then some ⟨b, 0, 0x80, 0xBF⟩
  else if b < 0xC2 then none
  else if b < 0xE0 then some ⟨b - 0xC0, 1, 0x80, 0xBF⟩
  else if b < 0xF0 then some ⟨b - 0xE0, 2, if b = 0xE0 then 0xA0 else 0x80, if b =
    0xED then 0x9F else 0xBF⟩
  else if b < 0xF5 then some ⟨b - 0xF0, 3, if b = 0xF0 then 0x90 else 0x80, if b =
    0xF4 then 0x8F else 0xBF⟩
  else none

/-- The code point with some bits and those of the bytes that follow, if they are as they must be,
and the bytes left. -/
def readRest (bits low high : Nat) : (more : Nat) → List UInt8 → Option Nat × List UInt8
  | 0, bytes => (some bits, bytes)
  | _ + 1, [] => (none, [])
  | more + 1, b :: bytes =>
    if low ≤ b.toNat ∧ b.toNat ≤ high then readRest (bits * 64 + (b.toNat - 0x80)) 0x80
      0xBF more bytes
    else (none, b :: bytes)

theorem length_readRest_le (bits low high more : Nat) (bytes : List UInt8) :
    (readRest bits low high more bytes).2.length ≤ bytes.length := by
  induction more generalizing bits low high bytes with
  | zero => simp [readRest]
  | succ more ih =>
    cases bytes with
    | nil => simp [readRest]
    | cons b bytes =>
      rw [readRest]
      split
      · exact Nat.le_succ_of_le (ih _ _ _ bytes)
      · simp

/-- The character that stands for what is none. -/
def replacement : Char := '\uFFFD'

/-- The characters of bytes, with a replacement for each piece that is none. -/
def decodedChars : List UInt8 → List Char
  | [] => []
  | b :: bytes =>
    match lead? b.toNat with
    | none => replacement :: decodedChars bytes
    | some l =>
      have := length_readRest_le l.bits l.low l.high l.more bytes
      ((readRest l.bits l.low l.high l.more bytes).1.map Char.ofNat).getD replacement
        :: decodedChars (readRest l.bits l.low l.high l.more bytes).2
termination_by bytes => bytes.length

/-- The text of bytes. What is no text is read with replacements. -/
def decodeLossy (bytes : ByteArray) : String :=
  match String.fromUTF8? bytes with
  | some text => text
  | none => String.ofList (decodedChars bytes.data.toList)

theorem decodeLossy_of_fromUTF8? {bytes : ByteArray} {text : String}
    (h : String.fromUTF8? bytes = some text) :
    decodeLossy bytes = text := by
  simp [decodeLossy, h]

end CommitLint.Text
