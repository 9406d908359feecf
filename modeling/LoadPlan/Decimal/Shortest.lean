import LoadPlan.Decimal.Pattern
/-!
# The shortest decimal of a double

For one digit, two digits, and so on, the two neighbours of a value on that decimal grid are
tried in exact arithmetic. The first grid with a neighbour that reads back as the value wins,
of two such neighbours the nearer one, and a `Tie` decides between two equally near.
`shortest` ends with the value's exact expansion, which reads back in any case.
-/

namespace LoadPlan.Decimal

/-- Which of two equally near decimals is taken. -/
inductive Tie where
  /-- The greater one. -/
  | up
  /-- The one with the even last digit. -/
  | even
deriving DecidableEq, Repr

/-- The exact decimal of a pattern. -/
def exact (b : Nat) : Decimal := ⟨scaled b * Nat.pow 5 1075, -1075⟩

/-- Does the decimal read back as the pattern? -/
def readsBack (b : Nat) (d : Decimal) : Bool := nearest d == b

/-- The exponent of the leading digit of a pattern that is not zero. -/
def leading (b : Nat) : Int := (width (scaled b * Nat.pow 5 1075) : Int) - 1076

/-- The multiples of `10 ^ exponent` next to a pattern: the one at or below it, and whether the
next one is nearer, equally near or farther away. -/
def neighbour (b : Nat) (exponent : Int) : Nat × Ordering :=
  let num := scaled b * Nat.pow 10 (-exponent).toNat
  let den := Nat.pow 2 1075 * Nat.pow 10 exponent.toNat
  (num / den, compare (2 * (num % den)) den)

/-- The better of the two neighbours on the grid of `10 ^ exponent` that read back. -/
def onGrid (tie : Tie) (b : Nat) (exponent : Int) : Option Decimal :=
  let (below, side) := neighbour b exponent
  let low : Decimal := ⟨below, exponent⟩
  let high : Decimal := ⟨below + 1, exponent⟩
  -- which neighbour is better counts only if both read back
  let preferHigh := match side, tie with
    | .lt, _ => false
    | .gt, _ => true
    | .eq, .up => true
    | .eq, .even => below % 2 == 1
  match readsBack b low, readsBack b high with
  | true, true => some (if preferHigh then high else low)
  | true, false => some low
  | false, true => some high
  | false, false => none

/-- Try the grids from `exponent` on, each ten times finer than the one before. -/
def search (tie : Tie) (b : Nat) (exponent : Int) : Nat → Decimal
  | 0 => exact b
  | fuel + 1 => (onGrid tie b exponent).getD (search tie b (exponent - 1) fuel)

/-- The same number without trailing zeros. -/
def trim (d : Decimal) : Decimal :=
  if h : d.digits ≠ 0 ∧ d.digits % 10 = 0 then trim ⟨d.digits / 10, d.exponent + 1⟩ else d
termination_by d.digits
decreasing_by omega

/-- The shortest decimal that reads back as the pattern; of those, the nearest. -/
def shortest (tie : Tie) (b : Nat) : Decimal :=
  if b = 0 then ⟨0, 0⟩ else trim (search tie b (leading b) 800)

end LoadPlan.Decimal
