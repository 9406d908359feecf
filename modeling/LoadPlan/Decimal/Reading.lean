import LoadPlan.Decimal.Pattern
/-!
# Reading the text of a double

A number is an optional sign, digits with at most one point and at least one digit, and an
optional exponent. The words `inf`, `infinity` and `nan` are read in any case. The value is
the double nearest to the exact number.
-/

namespace LoadPlan.Decimal

/-- A split sign: is the number negative, and what follows the sign? -/
def takeSign : List Char → Bool × List Char
  | '-' :: rest => (true, rest)
  | '+' :: rest => (false, rest)
  | cs => (false, cs)

/-- The number a nonempty text of digits names. -/
def takeNat (cs : List Char) : Option Nat :=
  if cs.isEmpty || !cs.all Char.isDigit then none else some (Nat.ofDigitChars 10 cs 0)

/-- An exponent without its mark: a sign and digits. -/
def takeExponent (cs : List Char) : Option Int :=
  let (negative, digits) := takeSign cs
  (takeNat digits).map fun n => if negative then -(n : Int) else n

/-- Whole digits, fraction digits and what follows them. -/
def splitNumber (cs : List Char) : List Char × List Char × List Char :=
  let whole := cs.takeWhile Char.isDigit
  match cs.dropWhile Char.isDigit with
  | '.' :: rest => (whole, rest.takeWhile Char.isDigit, rest.dropWhile Char.isDigit)
  | rest => (whole, [], rest)

/-- An unsigned number. -/
def takeDecimal (cs : List Char) : Option Decimal :=
  let (whole, fraction, rest) := splitNumber cs
  if whole.isEmpty && fraction.isEmpty then none
  else
    let exponent := match rest with
      | [] => some 0
      | e :: tail => if e == 'e' || e == 'E' then takeExponent tail else none
    exponent.map fun e => ⟨Nat.ofDigitChars 10 (whole ++ fraction) 0, e - fraction.length⟩

/-- The words for infinity. -/
def infinityWords : List (List Char) := ["inf".toList, "infinity".toList]

/-- The double that a text names. -/
def readChars (cs : List Char) : Option Float :=
  let (negative, body) := takeSign cs
  let word := body.map Char.toLower
  if infinityWords.contains word then some (toFloat negative infinityPattern)
  else if word = "nan".toList then some (Float.ofBits 0x7FF8000000000000)
  else (takeDecimal body).map fun d => toFloat negative (nearest d)

/-- The double that a text names. -/
def read (s : String) : Option Float := readChars s.toList

end LoadPlan.Decimal
