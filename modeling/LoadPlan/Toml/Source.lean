import LoadPlan.Document.Source
import LoadPlan.Toml.Reader
/-!
# Documents in TOML

A record is a table, or a list of its fields in their order; surplus items of such a list are left
out. A date has none of the fields of any record.
-/

namespace LoadPlan.Toml

open Document (Record)

namespace Value

/-- The text of a value that is one. -/
def text? : Value → Option String
  | .text s => some s
  | _ => none

/-- The fields of a table. -/
def fields? : Value → Option (List (String × Value))
  | .table _ fields => some fields
  | _ => none

/-- The items of a list. -/
def items? : Value → Option (List Value)
  | .list items => some items
  | .tables items => some items
  | _ => none

/-- The double that a number is. -/
def float? : Value → Option Float
  | .float x => some x
  | .integer n => some (Document.floatOfNat (decide (n < 0)) n.natAbs)
  | _ => none

/-- The fields of a record. -/
def record? (names : List String) : Value → Option (Record Value)
  | .table _ fields => Record.ofFields names fields
  | .list items => some ⟨names.zip items⟩
  | .tables items => some ⟨names.zip items⟩
  | .moment => some ⟨[]⟩
  | _ => none

instance : Document.Source Value where
  text? := text?
  natural? bound
    | .integer n => if 0 ≤ n && n < bound then some n.toNat else none
    | _ => none
  float? := float?
  bool?
    | .bool b => some b
    | _ => none
  isAbsent _ := some false
  isTrivial
    | .list [] => true
    | .table _ [] => true
    | _ => false
  items? := items?
  record? names v := StateT.lift (record? names v)
  variant? _
    | .text s => some (s, none)
    | .table _ [(name, v)] => some (name, some v)
    | _ => none
  pairs? v := StateT.lift do (← fields? v).mapM fun (k, v) => (text? v).map (k, ·)

end Value

/-- Read a document with `read`. There are no references in it. -/
def decode {α : Type} (read : Value → Document.Reading α) (s : String) : Option α :=
  (Toml.read s).bind fun v => (read v).run' 0

end LoadPlan.Toml
