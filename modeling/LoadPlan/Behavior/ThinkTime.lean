/-!
# Think times

How long a user waits before taking a transition, as a distribution over milliseconds.
-/

namespace LoadPlan

/-- A distribution of waiting times in milliseconds. -/
inductive ThinkTime where
  | normal (mean deviation : Float)
  | uniform (least greatest : Float)
  /-- A distribution that only a formatter of its own knows. -/
  | extension (typeName : String)

/-- The family of a think time. -/
inductive ThinkTimeKind where
  | normal | uniform
  | extension (typeName : String)
deriving DecidableEq

namespace ThinkTime

/-- The family of a think time. -/
def kind : ThinkTime → ThinkTimeKind
  | normal .. => .normal
  | uniform .. => .uniform
  | extension typeName => .extension typeName

end ThinkTime

namespace ThinkTimeKind

/-- The family as it is shown in messages. -/
def label : ThinkTimeKind → String
  | normal => "normal"
  | uniform => "uniform"
  | extension name => "extension:" ++ name

/-- The place of a family in the order of families. -/
def rank : ThinkTimeKind → Nat
  | normal => 0
  | uniform => 1
  | extension _ => 2

/-- The order of families: built-in ones first, then the others by name. -/
def le : ThinkTimeKind → ThinkTimeKind → Bool
  | extension a, extension b => a ≤ b
  | a, b => a.rank ≤ b.rank

end ThinkTimeKind

end LoadPlan
