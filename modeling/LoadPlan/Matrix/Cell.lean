import LoadPlan.Decimal.Reading
import LoadPlan.Decimal.Style
import LoadPlan.Text.Blank
/-!
# Cells

A cell holds a probability and a think time, with a semicolon between them. `Cell.split?` reads
what `Cell.write` has written.
-/

namespace LoadPlan.Cell

/-- The text of a probability. -/
def probability (p : Float) : String := Decimal.precise.write p

/-- The cell of a probability and a think time. -/
def write (p : Float) (thinkTime : String) : String := probability p ++ "; " ++ thinkTime

/-- The two parts of a cell, without the blanks around them. -/
def split? (cell : String) : Option (Float × String) :=
  let isMark : Char → Bool := (· == ';')
  let cs := cell.toList
  match cs.dropWhile fun c => !isMark c with
  | [] => none
  | _ :: rest =>
    (Decimal.readChars (Text.trimBlanks (cs.takeWhile fun c => !isMark c))).map fun p =>
      (p, String.ofList (Text.trimBlanks rest))

end LoadPlan.Cell
