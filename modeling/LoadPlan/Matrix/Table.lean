import LoadPlan.Matrix.Cell
import LoadPlan.Text.Split
/-!
# Matrices

A header and one row per service. The first column holds the labels of the rows; a cell is
looked up by the label of its row and the label of its column, the first of several.
-/

namespace LoadPlan

/-- The table of one behavior model, with its header as the first row. -/
structure BehaviorMatrix where
  /-- Name of the model. -/
  model : String
  filename : String
  rows : List (List String)
deriving DecidableEq

namespace BehaviorMatrix

variable (m : BehaviorMatrix)

/-- The labels of the columns. -/
def header : List String := m.rows.head?.getD []

/-- The rows below the header. -/
def body : List (List String) := m.rows.drop 1

/-- The first row with a label. -/
def row? (label : String) : Option (List String) := m.body.find? fun row => row.head? == some label

/-- The cell in a row and a column. -/
def cell? (row column : String) : Option String := do
  let i ← m.header.findIdx? (· == column)
  (← m.row? row)[i]?

/-- The probability in a row and a column. -/
def probability? (row column : String) : Option Float :=
  ((m.cell? row column).bind Cell.split?).map (·.1)

/-- One line of the written form. -/
def line (delimiter : Char) (row : List String) : List Char :=
  Text.joinWith delimiter (row.map String.toList) ++ ['\n']

/-- The written form: a line for each row, with a delimiter between the cells. -/
def delimited (delimiter : Char) : String := String.ofList (m.rows.flatMap (line delimiter))

end BehaviorMatrix

end LoadPlan
