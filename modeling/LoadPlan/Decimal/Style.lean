import LoadPlan.Decimal.Shortest
/-!
# Texts of doubles

A `Style` holds the decisions that a text of a double leaves open: where positional writing
ends, whether a whole number keeps `.0`, how an exponent is signed, which way a tie goes.
`Style.write` is the text itself.
-/

namespace LoadPlan.Decimal

/-- How a double is written. -/
structure Style where
  /-- Is a number whose leading digit has this exponent written without an exponent? -/
  positional : Int → Bool
  /-- Does a whole number in positional writing end in `.0`? -/
  pointZero : Bool
  /-- Is a plus sign written before an exponent that is not negative? -/
  plusSign : Bool
  /-- Which of two equally near shortest decimals is written? -/
  tie : Tie

/-- Digits and leading exponent in positional writing. -/
def positionalChars (pointZero : Bool) (digits : List Char) (lead : Int) : List Char :=
  if lead < 0 then
    '0' :: '.' :: List.replicate (-lead - 1).toNat '0' ++ digits
  else
    let whole := lead.toNat + 1
    if digits.length ≤ whole then
      digits ++ List.replicate (whole - digits.length) '0' ++ (if pointZero then ['.', '0'] else [])
    else
      digits.take whole ++ '.' :: digits.drop whole

/-- Digits and leading exponent in exponent writing. -/
def exponentChars (plusSign : Bool) (digits : List Char) (lead : Int) : List Char :=
  let mantissa := match digits with
    | [] => []
    | [d] => [d]
    | d :: rest => d :: '.' :: rest
  let sign := if lead < 0 then ['-'] else if plusSign then ['+'] else []
  mantissa ++ 'e' :: sign ++ Nat.toDigits 10 lead.natAbs

namespace Style

/-- The text of a finite magnitude. -/
def magnitude (style : Style) (b : Nat) : List Char :=
  let d := shortest style.tie b
  let digits := Nat.toDigits 10 d.digits
  let lead := d.exponent + digits.length - 1
  if style.positional lead then positionalChars style.pointZero digits lead
  else exponentChars style.plusSign digits lead

/-- The text of a double. -/
def chars (style : Style) (x : Float) : List Char :=
  if pattern x > infinityPattern then ['N', 'a', 'N']
  else
    (if signed x then ['-'] else []) ++
      if pattern x = infinityPattern then ['i', 'n', 'f'] else style.magnitude (pattern x)

/-- The text of a double, as a string. -/
def write (style : Style) (x : Float) : String := String.ofList (style.chars x)

end Style

/-- Numbers from `0.0001` up to `10 ^ 16` keep a fraction; all others have an exponent. -/
def precise : Style where
  positional lead := -4 ≤ lead && lead < 16
  pointZero := true
  plusSign := false
  tie := .up

/-- All digits, never an exponent, no fraction unless the number has one. -/
def plain : Style where
  positional _ := true
  pointZero := false
  plusSign := false
  tie := .up

/-- Neither infinite nor a NaN. -/
def isFinite (x : Float) : Bool := pattern x < infinityPattern

end LoadPlan.Decimal
