/-!
# Floating-point numbers

Binary floating-point numbers of 64 bits: a significand of at most 53 bits times a power of two, the
two infinities and a value that is no number. `Binary64.ofDecimal` takes the number nearest to a
decimal and, of two that are equally near, the one with an even significand.
-/

namespace CommitLint

/-- A floating-point number. -/
inductive Binary64
  /-- No number. -/
  | nan
  /-- Beyond all numbers. -/
  | infinite (negative : Bool)
  /-- The number `significand * 2 ^ exponent`, or the opposite. -/
  | finite (negative : Bool) (significand : Nat) (exponent : Int)
  deriving DecidableEq, Repr

namespace Binary64

def precision : Nat := 53

def minExponent : Int := -1074

def maxExponent : Int := 971

/-- The integer nearest to a quotient and, of two that are equally near, the even one. -/
def roundDiv (num den : Nat) : Nat :=
  let q := num / den
  let r := num % den
  if 2 * r < den then q else if 2 * r > den then q + 1 else q + q % 2

/-- The whole part of a power of a base, and of its inverse, for an exponent of either sign. -/
def powers (base : Nat) (e : Int) : Nat × Nat := (base.pow e.toNat, base.pow (-e).toNat)

/-- The exponent of the number nearest to a quotient that is not zero. -/
def exponentOf (num den : Nat) : Int :=
  let guess : Int := (Nat.log2 num : Int) - (Nat.log2 den : Int) - precision
  let (up, down) := powers 2 (guess + precision)
  max minExponent (if num * down < den * up then guess else guess + 1)

/-- The number nearest to a quotient. -/
def ofQuotient (negative : Bool) (num den : Nat) : Binary64 :=
  if num = 0 then finite negative 0 0
  else
    let e := exponentOf num den
    let (up, down) := powers 2 e
    let s := roundDiv (num * down) (den * up)
    let (s, e) := if s = Nat.pow 2 precision then (Nat.pow 2 (precision - 1), e + 1) else (s, e)
    if s = 0 then finite negative 0 0 else if e >
      maxExponent then infinite negative else finite negative s e

def digitCount (n : Nat) : Nat := (Nat.toDigits 10 n).length

/-- The number nearest to `digits * 10 ^ scale`, or the opposite. What lies far outside the range is
not written out. -/
def ofDecimal (negative : Bool) (digits : Nat) (scale : Int) : Binary64 :=
  let size := (digitCount digits : Int) + scale
  if digits = 0 ∨ size < -400 then finite negative 0 0
  else if size > 400 then infinite negative
  else
    let (up, down) := powers 10 scale
    ofQuotient negative (digits * up) down

/-- Twice the distance between a quotient and the integer it is rounded to is at most the
divisor. -/
theorem roundDiv_near (num den : Nat) (h : 0 < den) :
    2 * num ≤ den * (2 * roundDiv num den + 1) ∧ den * (2 * roundDiv num den) ≤ 2 * num + den := by
  have split : num = den * (num / den) + num % den := (Nat.div_add_mod num den).symm
  have small : num % den < den := Nat.mod_lt num h
  simp only [roundDiv]
  generalize hq : num / den = q at *
  generalize hr : num % den = r at *
  have e₁ : den * (2 * q + 1) = 2 * (den * q) + den := by
    rw [Nat.mul_add, Nat.mul_left_comm]; omega
  have e₂ : den * (2 * (q + 1) + 1) = 2 * (den * q) + 3 * den := by
    rw [Nat.mul_add, Nat.mul_left_comm, Nat.mul_add]; omega
  have e₃ : den * (2 * (q + 1)) = 2 * (den * q) + 2 * den := by
    rw [Nat.mul_left_comm, Nat.mul_add]; omega
  have e₄ : den * (2 * q) = 2 * (den * q) := Nat.mul_left_comm den 2 q
  split
  · omega
  · split
    · omega
    · rcases Nat.mod_two_eq_zero_or_one q with even | odd
      · simp only [even, Nat.add_zero]; omega
      · simp only [odd]; omega

end Binary64

end CommitLint
