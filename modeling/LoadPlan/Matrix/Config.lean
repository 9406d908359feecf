import LoadPlan.Text.Alphanumeric
import LoadPlan.Text.Blank
import LoadPlan.Text.Escape
/-!
# The layout of matrices

A `MatrixConfig` chooses the delimiter of columns, the label of the exit column and the mark of
the initial service. A delimiter must not be able to occur inside a cell.
-/

namespace LoadPlan

/-- Characters and labels that a matrix is laid out with. -/
structure MatrixConfig where
  delimiter : Char
  exitMarker : String
  initialMarker : String
deriving DecidableEq

/-- What can be wrong with a layout. -/
inductive LayoutFault where
  /-- Cells can hold the delimiter. -/
  | delimiterInCell (delimiter : Char)
  /-- A marker holds the delimiter or a line break. -/
  | brokenMarker (field marker : String)
deriving DecidableEq

/-- The wording of a fault. -/
def LayoutFault.message : LayoutFault → String
  | delimiterInCell d => "delimiter '" ++ String.ofList (Text.escape d) ++ "' can occur inside a cell"
  | brokenMarker field marker =>
    field ++ " '" ++ marker ++ "' contains the delimiter or a line break"

/-- Does the text hold the delimiter or a line break? -/
def breaksLine (delimiter : Char) (s : String) : Bool :=
  s.toList.any fun c => c == delimiter || c == '\n' || c == '\r'

namespace MatrixConfig

/-- Commas, a dollar sign for the exit, a star for the initial service. -/
def standard : MatrixConfig := ⟨',', "$", "*"⟩

instance : Inhabited MatrixConfig := ⟨standard⟩

/-- Can the character occur in a cell? Cells are made of numbers, the names of distributions,
brackets, blanks and the semicolon between the two parts. -/
def inCell (c : Char) : Bool :=
  c == ';' || Text.isBlank c || Text.isAlphanumeric c || ['(', ')', '.', '-', '+'].contains c

/-- Everything that is wrong with a layout. -/
def faults (config : MatrixConfig) : List LayoutFault :=
  (if inCell config.delimiter then [.delimiterInCell config.delimiter] else []) ++
  (if breaksLine config.delimiter config.exitMarker then
    [.brokenMarker "exit_marker" config.exitMarker] else []) ++
  (if breaksLine config.delimiter config.initialMarker then
    [.brokenMarker "initial_marker" config.initialMarker] else [])

end MatrixConfig

end LoadPlan
