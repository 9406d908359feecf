import LoadPlan.Behavior.ThinkTime
import LoadPlan.Decimal.Style
import LoadPlan.Registry
import LoadPlan.Text.Escape
/-!
# Formatters of think times

A matrix writes a think time as a short text such as `n(3000 300)`. There is one formatter per
family of think times; families of their own come with a formatter of their own.
-/

namespace LoadPlan

/-- How the think times of one family are written. -/
structure Formatter where
  kind : ThinkTimeKind
  /-- The text of a think time, none for one the formatter does not know. -/
  format : ThinkTime → Option String
  /-- What stands in a cell without a transition. -/
  default : String

namespace Formatter

/-- A letter and two numbers of milliseconds. -/
def pair (letter : String) (a b : Float) : String :=
  letter ++ "(" ++ Decimal.plain.write a ++ " " ++ Decimal.plain.write b ++ ")"

/-- Normal distributions by mean and deviation. -/
def normal : Formatter where
  kind := .normal
  format
    | .normal mean deviation => some (pair "n" mean deviation)
    | _ => none
  default := "n(0 0)"

/-- Uniform distributions by least and greatest value. -/
def uniform : Formatter where
  kind := .uniform
  format
    | .uniform least greatest => some (pair "u" least greatest)
    | _ => none
  default := "u(0 0)"

/-- Every think time of a family has the same text. -/
def constant (kind : ThinkTimeKind) (text default : String) : Formatter where
  kind := kind
  format t := if t.kind = kind then some text else none
  default := default

end Formatter

/-- Formatters by family. -/
abbrev Formatters := Registry ThinkTimeKind Formatter

namespace Formatters

/-- Register a formatter under its own family. -/
def register (r : Formatters) (f : Formatter) : Formatters := r.insert f.kind f

/-- The formatters of normal and uniform distributions. -/
def builtIn : Formatters := register (register Registry.empty .normal) .uniform

/-- A family in a description. -/
def kindText : ThinkTimeKind → String
  | .normal => "Normal"
  | .uniform => "Uniform"
  | .extension name => "Extension(" ++ Text.quote name ++ ")"

/-- The registered families, in their order. -/
def describe (r : Formatters) : String :=
  r.description "ThinkTimeFormatters" ThinkTimeKind.le kindText

end Formatters

end LoadPlan
