import LoadPlan.Decimal.Style
import LoadPlan.Document.Value
/-!
# Typed scalars

Which plain texts are truth values, numbers or nothing. Whole numbers may have a base prefix;
decimal ones have no leading zeros. A number that does not fit a machine word, but two of them, has
no type here; a longer one is a double.
-/

namespace LoadPlan.Yaml

open Document (Value)

/-- The words for nothing. -/
def isNullWord (s : List Char) : Bool :=
  s == "null".toList || s == "Null".toList || s == "NULL".toList || s == "~".toList

/-- The truth value that a word names. -/
def boolWord? (s : List Char) : Option Bool :=
  if s == "true".toList || s == "True".toList || s == "TRUE".toList then some true
  else if s == "false".toList || s == "False".toList || s == "FALSE".toList then some false
  else none

/-- The value of a digit or letter as a digit. -/
def digitValue? (c : Char) : Option Nat :=
  if c.isDigit then some (c.toNat - 48)
  else if 'a' ≤ c && c ≤ 'z' then some (c.toNat - 87)
  else if 'A' ≤ c && c ≤ 'Z' then some (c.toNat - 55)
  else none

/-- The number that some digits name in a base. There must be one. -/
def numberIn? (base : Nat) (digits : List Char) : Option Nat :=
  if digits.isEmpty then none
  else digits.foldlM (fun n c =>
    ((digitValue? c).filter fun d => decide (d < base)).map (n * base + ·)) 0

/-- The number with a base prefix. -/
def prefixed? : List Char → Option Nat
  | '0' :: 'x' :: digits => numberIn? 16 digits
  | '0' :: 'o' :: digits => numberIn? 8 digits
  | '0' :: 'b' :: digits => numberIn? 2 digits
  | _ => none

/-- Is the text digits with a leading zero, and maybe a sign before them? -/
def hasLeadingZero (s : List Char) : Bool :=
  let digits := match s with
    | c :: rest => if c == '-' || c == '+' then rest else c :: rest
    | [] => []
  decide (1 < digits.length) && digits.head? == some '0' && digits.all Char.isDigit

/-- The text without a plus sign at its start. -/
def withoutPlus : List Char → List Char
  | '+' :: rest => rest
  | s => s

/-- The whole number from zero up that a text names. -/
def natural? (s : List Char) : Option Nat :=
  if hasLeadingZero s then none
  else (prefixed? (withoutPlus s)).or (numberIn? 10 (withoutPlus s))

/-- The magnitude of the whole number below or equal to zero that a text names. -/
def negated? : List Char → Option Nat
  | '-' :: rest => if hasLeadingZero rest then none else (prefixed? rest).or (numberIn? 10 rest)
  | _ => none

/-- The double that a text names. It has a word of its own, or is a decimal that is in range. -/
def double? (s : List Char) : Option Float :=
  let body := withoutPlus s
  if s.head? == some '+' && (body.head? == some '+' || body.head? == some '-') then none
  else if body == ".inf".toList || body == ".Inf".toList || body == ".INF".toList then
    some (Decimal.toFloat false Decimal.infinityPattern)
  else if s == "-.inf".toList || s == "-.Inf".toList || s == "-.INF".toList then
    some (Decimal.toFloat true Decimal.infinityPattern)
  else if s == ".nan".toList || s == ".NaN".toList || s == ".NAN".toList then
    some (Float.ofBits 0x7FF8000000000000)
  else (Decimal.readChars body).filter Decimal.isFinite

/-- The whole number that a text names: none if it names none, and `some none` if it names one
that has no type. -/
def integer? (s : List Char) : Option (Option Value) :=
  match natural? s, negated? s with
  | some n, _ =>
    if n < Nat.pow 2 64 then some (some (.natural n))
    else if n < Nat.pow 2 128 then some none
    else none
  | none, some n =>
    if n ≤ Nat.pow 2 63 then some (some (.negative n))
    else if n ≤ Nat.pow 2 127 then some none
    else none
  | none, none => none

/-- The typed value of a plain scalar. -/
def plainValue? (s : List Char) : Option Value :=
  if s.isEmpty || isNullWord s then some .null
  else match boolWord? s, integer? s with
    | some b, _ => some (.bool b)
    | none, some v => v
    | none, none =>
      if hasLeadingZero s then some (.text (String.ofList s))
      else some ((double? s).elim (.text (String.ofList s)) .float)

end LoadPlan.Yaml
