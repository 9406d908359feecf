import LoadPlan.Decimal.Reading
import LoadPlan.Decimal.Style
/-!
# JSON values

A value keeps what a reader may still have to tell apart: a number is kept as it is written, the
fields of an object in their order, repeated keys included. A text that escapes half of a
surrogate pair has no characters; such a text is read, but cannot be used.
-/

namespace LoadPlan

/-- A JSON value. -/
inductive Json where
  | null
  | bool (b : Bool)
  /-- A number as it is written. -/
  | number (literal : List Char)
  /-- A text, none if it escapes half of a surrogate pair. -/
  | text (s : Option String)
  | list (items : List Json)
  | object (fields : List (Option String × Json))

namespace Json

/-- The text `s`. -/
def str (s : String) : Json := .text (some s)

/-- The number `n`. -/
def nat (n : Nat) : Json := .number (Nat.toDigits 10 n)

/-- Numbers up to `10 ^ 16` keep a fraction; those of a greater or very small magnitude have a
signed exponent. -/
def numberStyle : Decimal.Style where
  positional lead := -5 ≤ lead && lead < 16
  pointZero := true
  plusSign := true
  tie := .even

/-- A double. What is not finite has no number and is null. -/
def float (x : Float) : Json :=
  if Decimal.isFinite x then .number (numberStyle.chars x) else .null

/-- An object. -/
def record (fields : List (String × Json)) : Json := .object (fields.map fun f => (some f.1, f.2))

/-- The whole number that a literal without sign, fraction and exponent names. -/
def literalNat? (literal : List Char) : Option Nat := Decimal.takeNat literal

/-- The double that a literal names, none if it is out of range. -/
def literalFloat? (literal : List Char) : Option Float :=
  (Decimal.readChars literal).filter Decimal.isFinite

end Json

end LoadPlan
