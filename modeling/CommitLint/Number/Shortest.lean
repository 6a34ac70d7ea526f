import CommitLint.Number.Binary64

/-!
# Shortest decimals

A floating-point number is written with the fewest digits that are nearer to it than to any other,
and with those that are nearest of so few (`Shortest.digits`). All digits before and after the point
are written out, without an exponent.
-/

namespace CommitLint.Shortest

/-- A decimal `digits * 10 ^ scale`. -/
structure Decimal where
  /-- The digits as one integer. -/
  digits : Nat
  /-- The power of ten. -/
  scale : Int
  deriving DecidableEq, Repr

/-- The values that are rounded to one number, in quarters of its last bit: the number times four,
the ends below and above it, and whether the ends belong to it. -/
structure Interval where
  /-- The lower end. -/
  low : Nat
  /-- The number. -/
  value : Nat
  /-- The upper end. -/
  high : Nat
  /-- Whether the ends are rounded to the number too. -/
  closed : Bool
  /-- The power of two that the quarters count. -/
  exponent : Int

/-- The values that are rounded to `significand * 2 ^ exponent`. Below a power of two the numbers
lie closer. -/
def intervalOf (significand : Nat) (exponent : Int) : Interval :=
  let below := if significand = 0x10000000000000 ∧ exponent > Binary64.minExponent then 1 else 2
  ⟨4 * significand - below, 4 * significand, 4 * significand + 2, significand % 2 = 0, exponent - 2⟩

/-- Quarters and decimals of a scale, brought to a common measure: the factor of the first and that
of the second. -/
def factors (i : Interval) (scale : Int) : Nat × Nat :=
  let (two, half) := Binary64.powers 2 i.exponent
  let (ten, tenth) := Binary64.powers 10 scale
  (two * tenth, ten * half)

/-- Whether a decimal of a scale is rounded to the number. -/
def covers (i : Interval) (scale : Int) (digits : Nat) : Bool :=
  let (f, g) := factors i scale
  if i.closed then decide (i.low * f ≤ digits * g) && decide (digits * g ≤ i.high * f)
  else decide (i.low * f < digits * g) && decide (digits * g < i.high * f)

/-- The decimal of a scale that is nearest to the number, if it is rounded to the number. -/
def nearest? (i : Interval) (scale : Int) : Option Decimal :=
  let (f, g) := factors i scale
  let down := i.value * f / g
  let near := if 2 * (i.value * f % g) < g then [down, down + 1] else [down + 1, down]
  (near.find? (covers i scale)).map fun digits => ⟨digits, scale⟩

/-- The first decimal that is found as the scale goes down, at most `steps` times. -/
def search (i : Interval) (scale : Int) : (steps : Nat) → Decimal
  | 0 => ⟨i.value, 0⟩
  | steps + 1 => (nearest? i scale).getD (search i (scale - 1) steps)

/-- An exponent of ten beyond that of the number. -/
def topScale (i : Interval) : Int := ((Nat.log2 i.value : Int) + i.exponent) * 30103 / 100000 + 2

/-- The fewest digits for a number that is not zero. -/
def digits (significand : Nat) (exponent : Int) : Decimal :=
  let i := intervalOf significand exponent
  search i (topScale i) 22

/-- A decimal with all its digits written out. -/
def Decimal.positional (d : Decimal) : String :=
  let shown := Nat.repr d.digits
  if 0 ≤ d.scale then if d.digits = 0 then "0" else shown ++ "".pushn '0' d.scale.toNat
  else
    let places := (-d.scale).toNat
    let padded := ("".pushn '0' (places + 1 - shown.length) ++ shown).toList
    String.ofList (padded.take (padded.length - places)) ++ "."
      ++ String.ofList (padded.drop (padded.length - places))

/-- A number in decimal notation, with at least one place after the point. -/
def shown (negative : Bool) (significand : Nat) (exponent : Int) : String :=
  let d := if significand = 0 then ⟨0, 0⟩ else digits significand exponent
  (if negative then "-" else "") ++ d.positional ++ (if 0 ≤ d.scale then ".0" else "")

end CommitLint.Shortest
