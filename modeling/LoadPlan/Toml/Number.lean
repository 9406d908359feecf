import LoadPlan.Decimal.Reading
import LoadPlan.Decimal.Style
import LoadPlan.Text.Hex
import LoadPlan.Toml.Value
/-!
# TOML numbers and dates

Digits may be grouped by single underscores. Whole numbers are decimal without leading zeros, or
have a base prefix and no sign; they fit 64 bits with a sign.
-/

namespace LoadPlan.Toml

/-- The digits after the first one, without underscores, and the rest. -/
def moreDigits (isDigit : Char → Bool) : List Char → Option (List Char × List Char)
  | '_' :: c :: rest =>
    if isDigit c then (moreDigits isDigit rest).map fun (ds, rest) => (c :: ds, rest) else none
  | c :: rest =>
    if isDigit c then (moreDigits isDigit rest).map fun (ds, rest) => (c :: ds, rest)
    else if c == '_' then none
    else some ([], c :: rest)
  | [] => some ([], [])

/-- At least one digit without underscores, and the rest. -/
def takeDigits (isDigit : Char → Bool) : List Char → Option (List Char × List Char)
  | c :: rest =>
    if isDigit c then (moreDigits isDigit rest).map fun (ds, rest) => (c :: ds, rest) else none
  | [] => none

/-- Is the character one of the first digits? -/
def isDigitBelow (base : Nat) (c : Char) : Bool := (Text.hexValue? c).any fun d => decide (d < base)

/-- A whole number in a base. -/
def takeBased (base : Nat) (cs : List Char) : Option (Value × List Char) := do
  let (digits, rest) ← takeDigits (isDigitBelow base) cs
  let n ← digits.foldlM (fun n c => (Text.hexValue? c).map (n * base + ·)) 0
  if n < Nat.pow 2 63 then return (.integer n, rest) else none

/-- The whole part of a number. It starts with zero only if it is zero. -/
def takeWhole : List Char → Option (List Char × List Char)
  | '0' :: rest => some (['0'], rest)
  | cs => takeDigits Char.isDigit cs

/-- The exponent of a number with its mark, if there is one. -/
def takeExponent : List Char → Option (List Char × List Char)
  | c :: rest =>
    if c == 'e' || c == 'E' then
      let (negative, digits) := Decimal.takeSign rest
      (takeDigits Char.isDigit digits).map fun (ds, rest) =>
        ('e' :: (if negative then ['-'] else []) ++ ds, rest)
    else some ([], c :: rest)
  | [] => some ([], [])

/-- The fraction of a number with its point, if there is one. -/
def takeFraction : List Char → Option (List Char × List Char)
  | '.' :: rest => (takeDigits Char.isDigit rest).map fun (ds, rest) => ('.' :: ds, rest)
  | cs => some ([], cs)

/-- The decimal number that follows a sign, and the rest. A double must not be out of range, save
below. -/
def takeDecimal (negative : Bool) (cs : List Char) : Option (Value × List Char) := do
  let (whole, rest) ← takeWhole cs
  let (fraction, rest) ← takeFraction rest
  let (exponent, rest) ← takeExponent rest
  if fraction.isEmpty && exponent.isEmpty then
    let n := Nat.ofDigitChars 10 whole 0
    if negative then if n ≤ Nat.pow 2 63 then return (.integer (-n), rest) else none
    else if n < Nat.pow 2 63 then return (.integer n, rest) else none
  else
    let x ← Decimal.readChars ((if negative then ['-'] else []) ++ whole ++ fraction ++ exponent)
    if Decimal.isFinite x || negative then return (.float x, rest) else none

/-- A number, and the rest. -/
def takeNumber (cs : List Char) : Option (Value × List Char) :=
  match cs with
  | '0' :: 'x' :: rest => takeBased 16 rest
  | '0' :: 'o' :: rest => takeBased 8 rest
  | '0' :: 'b' :: rest => takeBased 2 rest
  | _ =>
    let (negative, body) := Decimal.takeSign cs
    match body with
    | 'i' :: 'n' :: 'f' :: rest =>
      some (.float (Decimal.toFloat negative Decimal.infinityPattern), rest)
    | 'n' :: 'a' :: 'n' :: rest => some (.float (Float.ofBits 0x7FF8000000000000), rest)
    | _ => takeDecimal negative body

/-- A number of exactly so many digits within bounds, and the rest. -/
def takeFixed (width low high : Nat) (cs : List Char) : Option (Nat × List Char) :=
  let digits := cs.take width
  let n := Nat.ofDigitChars 10 digits 0
  if digits.length = width && digits.all Char.isDigit && decide (low ≤ n) && decide (n ≤ high) then
    some (n, cs.drop width)
  else none

/-- The rest after a given character. -/
def takeMark (c : Char) : List Char → Option (List Char)
  | x :: rest => if x == c then some rest else none
  | [] => none

/-- How many days a month has. -/
def daysIn (year month : Nat) : Nat :=
  if month = 2 then if year % 4 = 0 && (year % 100 ≠ 0 || year % 400 = 0) then 29 else 28
  else if [4, 6, 9, 11].contains month then 30
  else 31

/-- The rest after a date. -/
def takeDate (cs : List Char) : Option (List Char) := do
  let (year, rest) ← takeFixed 4 0 9999 cs
  let (month, rest) ← takeFixed 2 1 12 (← takeMark '-' rest)
  let (_, rest) ← takeFixed 2 1 (daysIn year month) (← takeMark '-' rest)
  return rest

/-- The rest after a fraction of a second, if there is one. -/
def skipSecondFraction : List Char → List Char
  | '.' :: rest => if rest.head?.any Char.isDigit then rest.dropWhile Char.isDigit else '.' :: rest
  | cs => cs

/-- The rest after a time of day. -/
def takeTime (cs : List Char) : Option (List Char) := do
  let (_, rest) ← takeFixed 2 0 23 cs
  let (_, rest) ← takeFixed 2 0 59 (← takeMark ':' rest)
  let (_, rest) ← takeFixed 2 0 60 (← takeMark ':' rest)
  return skipSecondFraction rest

/-- The rest after an offset from universal time. -/
def takeOffset : List Char → Option (List Char)
  | c :: rest =>
    if c == 'Z' || c == 'z' then some rest
    else if c == '+' || c == '-' then do
      let (_, rest) ← takeFixed 2 0 23 rest
      let (_, rest) ← takeFixed 2 0 59 (← takeMark ':' rest)
      return rest
    else none
  | [] => none

/-- The rest after the time that follows a date. -/
def takeTimeOfDate : List Char → Option (List Char)
  | c :: rest =>
    if c == 'T' || c == 't' || c == ' ' then
      (takeTime rest).map fun rest => (takeOffset rest).getD rest
    else none
  | [] => none

/-- A date, a time or both, and the rest. -/
def takeMoment (cs : List Char) : Option (Value × List Char) :=
  let rest := match takeDate cs with
    | some rest => some ((takeTimeOfDate rest).getD rest)
    | none => takeTime cs
  rest.map (.moment, ·)

end LoadPlan.Toml
