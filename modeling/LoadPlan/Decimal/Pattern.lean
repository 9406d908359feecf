/-!
# Decimals and the bit patterns of doubles

A `Decimal` is the exact number `digits · 10 ^ exponent`. The nonnegative doubles are
ordered by their bit patterns, so reading a decimal is a search: `nearest` finds the first
pattern whose upper neighbour the decimal does not round to. Magnitudes are counted in
half units of the least subnormal, where the midpoint of two neighbours is a whole number.
-/

namespace LoadPlan

/-- The number `digits · 10 ^ exponent`. -/
structure Decimal where
  digits : Nat
  exponent : Int
deriving DecidableEq, Repr, Inhabited

namespace Decimal

/-- Numerator of the number as a fraction. -/
def num (d : Decimal) : Nat := d.digits * Nat.pow 10 d.exponent.toNat

/-- Denominator of the number as a fraction. -/
def den (d : Decimal) : Nat := Nat.pow 10 (-d.exponent).toNat

/-- The pattern of positive infinity, one above the greatest finite pattern. -/
def infinityPattern : Nat := 0x7FF0000000000000

/-- The pattern of the sign bit. -/
def signPattern : Nat := 0x8000000000000000

/-- The magnitude of a pattern, in units of `2 ^ -1075`. Subnormals grow by one unit of the
last place; above them every exponent doubles the step. -/
def scaled (b : Nat) : Nat :=
  let step := Nat.pow 2 52
  if b < step then 2 * b else 2 * (step + b % step) * Nat.pow 2 (b / step - 1)

/-- The midpoint of a pattern and the next one, in units of `2 ^ -1075`. -/
def midpoint (b : Nat) : Nat := (scaled b + scaled (b + 1)) / 2

/-- Does the number round to the pattern `b` or to one below it? A midpoint goes to the even
pattern. -/
def roundsAtMost (d : Decimal) (b : Nat) : Bool :=
  let value := d.num * Nat.pow 2 1075
  let limit := midpoint b * d.den
  infinityPattern ≤ b || value < limit || (value == limit && b % 2 == 0)

/-- The least index of `[lo, lo + 2 ^ k)` where an upward closed test holds, if it holds at
the last one. -/
def leastFrom (p : Nat → Bool) (lo : Nat) : Nat → Nat
  | 0 => lo
  | k + 1 =>
    let half := Nat.pow 2 k
    if p (lo + half - 1) then leastFrom p lo k else leastFrom p (lo + half) k

/-- How many decimal digits a number is written with. -/
def width (n : Nat) : Nat := (Nat.toDigits 10 n).length

/-- The pattern a nonnegative number rounds to. Numbers that are out of range by their
exponent alone are not expanded. -/
def nearest (d : Decimal) : Nat :=
  if d.digits = 0 then 0
  else if d.exponent + width d.digits < -400 then 0
  else if d.exponent > 400 then infinityPattern
  else leastFrom (roundsAtMost d) 0 63

/-- The double with a pattern and a sign. -/
def toFloat (negative : Bool) (pattern : Nat) : Float :=
  Float.ofBits (UInt64.ofNat (pattern + if negative then signPattern else 0))

end Decimal

/-- Is the sign bit set? -/
def signed (x : Float) : Bool := Decimal.signPattern ≤ x.toBits.toNat

/-- The pattern without its sign. -/
def pattern (x : Float) : Nat := x.toBits.toNat % Decimal.signPattern

end LoadPlan
