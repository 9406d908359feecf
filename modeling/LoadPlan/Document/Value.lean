import LoadPlan.Decimal.Reading
/-!
# Typed values

What is left of a part of a document once every scalar in it has its type. Parts whose shape
depends on their content are read from typed values: the fields of a tagged union, the target
of a transition.
-/

namespace LoadPlan.Document

/-- A value whose scalars have their types. -/
inductive Value where
  | null
  | bool (b : Bool)
  | natural (n : Nat)
  /-- The whole number `-n`. A zero with a sign is one of these. -/
  | negative (n : Nat)
  | float (x : Float)
  | text (s : String)
  | list (items : List Value)
  | map (entries : List (Value × Value))

/-- The double nearest to a whole number. -/
def floatOfNat (negative : Bool) (n : Nat) : Float := Decimal.toFloat negative (Decimal.nearest ⟨n, 0⟩)

end LoadPlan.Document
