import LoadPlan.Yaml.Cursor
/-!
# White space inside scalars

Blanks between two words on one line are kept. A line break between two words is folded: alone
it is a space, of several the first is left out. The blanks around breaks are dropped.
-/

namespace LoadPlan.Yaml

/-- White space between two words. -/
structure Gap where
  /-- Does it hold a line break? -/
  broken : Bool
  /-- The blanks before the first break. -/
  blanks : List Char
  /-- The first break. -/
  first : List Char
  /-- The other breaks. -/
  others : List Char

namespace Gap

/-- Nothing between two words; `broken` says whether a line was joined to the one before. -/
def none (broken : Bool) : Gap := ⟨broken, [], [], []⟩

/-- A gap with one more character, which is a blank or a whole break. -/
def addBlank (g : Gap) (c : Char) : Gap :=
  if g.broken then g else { g with blanks := g.blanks ++ [c] }

/-- A gap with one more break. -/
def addBreak (g : Gap) (b : List Char) : Gap :=
  if g.broken then { g with others := g.others ++ b } else { g with broken := true, first := b }

/-- What breaks stand for. A separator is never folded. -/
def folded (first others : List Char) : List Char :=
  if first.head? = some '\n' then if others.isEmpty then [' '] else others else first ++ others

/-- What the gap stands for. -/
def text (g : Gap) : List Char := if g.broken then folded g.first g.others else g.blanks

/-- The white space at a position added to a gap, and the position after it. On lines that
continue a scalar no tab may come before the column `indent`. -/
def extend (indent : Nat) : Nat → Gap → Cursor → Option (Gap × Cursor)
  | 0, _, _ => Option.none
  | fuel + 1, g, c =>
    match c.rest with
    | [] => some (g, c)
    | x :: _ =>
      if isBlank x then
        if g.broken && decide (c.column < indent) && x == '\t' then Option.none
        else extend indent fuel (g.addBlank x) c.next
      else if isBreak x then extend indent fuel (g.addBreak c.takeBreak.1) c.takeBreak.2
      else some (g, c)

/-- The white space at a position, and the position after it. -/
def take (indent : Nat) (broken : Bool) (c : Cursor) : Option (Gap × Cursor) :=
  extend indent (c.left + 1) (none broken) c

end Gap

end LoadPlan.Yaml
