import LoadPlan.Document.Source
import LoadPlan.Json.Reader
/-!
# Documents in JSON

A JSON value is read at a depth, the number of lists and objects around it. Parts that have to
be typed as a whole, unknown fields included, may not nest deeper than `maxDepth` levels from the
root; parts that are skipped may.
-/

namespace LoadPlan.Json

/-- How many levels of lists and objects a typed part may lie in. -/
def maxDepth : Nat := 127

/-- A value and the number of lists and objects around it. -/
structure Nested where
  depth : Nat
  value : Json

open Document

/-- The typed value of a number. A literal without fraction and exponent is a whole number if it
fits a machine word; a negative one may have half the range. -/
def numberValue? (literal : List Char) : Option Value :=
  match literal with
  | '-' :: digits =>
    match literalNat? digits with
    | some (n + 1) =>
      if n < Nat.pow 2 63 then some (.negative (n + 1)) else (literalFloat? literal).map .float
    | _ => (literalFloat? literal).map .float
  | _ =>
    match literalNat? literal with
    | some n => if n < wordBound then some (.natural n) else (literalFloat? literal).map .float
    | none => (literalFloat? literal).map .float

mutual

/-- The typed value of a JSON value with `room` levels left below it. -/
def typed? (room : Nat) : Json → Option Value
  | .null => some .null
  | .bool b => some (.bool b)
  | .number literal => numberValue? literal
  | .text s => s.map .text
  | .list items =>
    match room with
    | 0 => none
    | room + 1 => (typedItems? room items).map .list
  | .object fields =>
    match room with
    | 0 => none
    | room + 1 => (typedFields? room fields).map .map

/-- The typed values of some items. -/
def typedItems? (room : Nat) : List Json → Option (List Value)
  | [] => some []
  | item :: items => do return (← typed? room item) :: (← typedItems? room items)

/-- The typed values of some fields. -/
def typedFields? (room : Nat) : List (Option String × Json) → Option (List (Value × Value))
  | [] => some []
  | (key, value) :: fields => do
    return (.text (← key), ← typed? room value) :: (← typedFields? room fields)

end

/-- The keys and values of an object, all keys with characters. -/
def keyed? (depth : Nat) (fields : List (Option String × Json)) : Option (List (String × Nested)) :=
  fields.mapM fun (key, value) => key.map fun k => (k, ⟨depth + 1, value⟩)

namespace Nested

/-- The typed value. -/
def typed? (x : Nested) : Option Value := Json.typed? (maxDepth - x.depth) x.value

/-- The text of a value that is one. -/
def text? (x : Nested) : Option String :=
  match x.value with
  | .text s => s
  | _ => none

/-- Is the depth allowed for one more level? -/
def hasRoom (x : Nested) : Bool := x.depth < maxDepth

/-- The fields of a record. -/
def record? (names : List String) (x : Nested) : Option (Record Nested) :=
  if x.hasRoom then
    match x.value with
    | .object fields => (keyed? x.depth fields).bind (Record.ofFields names)
    | .list items => Record.ofItems names (items.map (⟨x.depth + 1, ·⟩))
    | _ => none
  else none

/-- The keys and values of a map between texts. -/
def pairs? (x : Nested) : Option (List (String × String)) :=
  match x.value with
  | .object fields => do
    (← keyed? x.depth fields).mapM fun (k, v) => (v.text?).map (k, ·)
  | _ => none

/-- The variant that a field or the first item names, and the other fields or items. -/
def tagged? (tag : String) (x : Nested) : Option (String × Value) :=
  match x.value with
  | .object fields =>
    if x.hasRoom then do
      let keys ← fields.mapM (·.1)
      if keys.count tag = 1 then
        let name ← (fields.find? fun f => f.1 == some tag).bind fun f => text? ⟨0, f.2⟩
        let rest := fields.filter fun f => f.1 != some tag
        let entries ← typedFields? (maxDepth - x.depth - 1) rest
        return (name, .map entries)
      else none
    else none
  | .list (first :: items) =>
    if x.hasRoom then do
      return (← text? ⟨0, first⟩, .list (← typedItems? (maxDepth - x.depth - 1) items))
    else none
  | _ => none

instance : Source Nested where
  text? := text?
  natural? bound x :=
    match x.value with
    | .number literal => (literalNat? literal).filter (· < bound)
    | _ => none
  float? x :=
    match x.value with
    | .number literal => literalFloat? literal
    | _ => none
  bool? x :=
    match x.value with
    | .bool b => some b
    | _ => none
  isAbsent x :=
    match x.value with
    | .null => some true
    | _ => some false
  isTrivial x :=
    match x.value with
    | .null => true
    | _ => false
  items? x :=
    match x.value with
    | .list items => if x.hasRoom then some (items.map (⟨x.depth + 1, ·⟩)) else none
    | _ => none
  record? names x := StateT.lift (record? names x)
  variant? _ x :=
    match x.value with
    | .text s => s.map (·, none)
    | .object [(key, value)] => key.map (·, some ⟨x.depth + 1, value⟩)
    | _ => none
  pairs? x := StateT.lift (pairs? x)

instance : TypedSource Nested where
  tagged? tag x := StateT.lift (tagged? tag x)
  value? x := StateT.lift x.typed?

end Nested

/-- Read a document with `read`. There are no references in it. -/
def decode {α : Type} (read : Nested → Reading α) (s : String) : Option α :=
  (Json.read s).bind fun v => (read ⟨0, v⟩).run' 0

end LoadPlan.Json
