import LoadPlan.Document.Value
/-!
# Sources of documents

A `Source` is a kind of tree that domain types are read from: JSON values, YAML nodes, tables of
a configuration, typed values. It says which of its trees are texts, numbers, lists, records and
so on; what the domain expects where is written once, over any source. A `TypedSource` has typed
values as well, which tagged unions are read from.

A record is what a source yields for a given list of field names. Fields with other names are
left out, a field given twice spoils the record.

A tree may be a reference to another one. It is settled before it is read, and `Reading` bounds how
many references are followed on the way.
-/

namespace LoadPlan.Document

/-- Reading a document, with a number of references that may still be followed. -/
abbrev Reading (α : Type) : Type := StateT Nat Option α

/-- The fields of a record under some names. -/
structure Record (σ : Type) where
  fields : List (String × σ)

/-- A kind of tree that domain types are read from. -/
class Source (σ : Type) where
  /-- The tree that a tree stands for. All that follows is about such trees. -/
  settle : σ → Reading σ := pure
  /-- A text. -/
  text? : σ → Option String
  /-- A whole number from zero up to below a bound. -/
  natural? : Nat → σ → Option Nat
  /-- A double. -/
  float? : σ → Option Float
  /-- A truth value. -/
  bool? : σ → Option Bool
  /-- Does the tree stand for the absence of a value? None if it contradicts itself. -/
  isAbsent : σ → Option Bool
  /-- Does the tree stand for the only value of a type that has one? -/
  isTrivial : σ → Bool
  /-- The items of a list. -/
  items? : σ → Option (List σ)
  /-- The fields of a record with the given names. -/
  record? : List String → σ → Reading (Record σ)
  /-- The name of a variant among the given ones, and what it carries. -/
  variant? : List String → σ → Option (String × Option σ)
  /-- The keys and values of a map between texts. -/
  pairs? : σ → Reading (List (String × String))

/-- A kind of tree that tagged unions and targets are read from too. -/
class TypedSource (σ : Type) extends Source σ where
  /-- The variant named by a field of the record, or by the first item of the list, and the rest
  of the record or list. -/
  tagged? : String → σ → Reading (String × Value)
  /-- The typed value of the tree. -/
  value? : σ → Reading Value

namespace Record

variable {σ α : Type} [Source σ]

/-- The field with a name. -/
def get? (r : Record σ) (name : String) : Option σ :=
  (r.fields.find? fun f => f.1 == name).map (·.2)

/-- A field that must be there. -/
def required (r : Record σ) (name : String) (read : σ → Reading α) : Reading α := do
  match r.get? name with
  | none => failure
  | some x => read (← Source.settle x)

/-- A field that has a default. -/
def defaulted (r : Record σ) (name : String) (default : α) (read : σ → Reading α) : Reading α := do
  match r.get? name with
  | none => return default
  | some x => read (← Source.settle x)

/-- A field that may be missing or absent. -/
def optional (r : Record σ) (name : String) (read : σ → Reading α) : Reading (Option α) := do
  match r.get? name with
  | none => return none
  | some x => do
    let x ← Source.settle x
    if ← (Source.isAbsent x : Option Bool) then return none else return some (← read x)

/-- The record of some fields, if none of the given names has two. Fields with other names are
left out. -/
def ofFields (names : List String) (fields : List (String × σ)) : Option (Record σ) :=
  let known := fields.filter fun f => names.contains f.1
  if (known.map (·.1)).Nodup then some ⟨known⟩ else none

/-- The record of a list with the fields in the order of their names. The last ones may be left
out. -/
def ofItems (names : List String) (items : List σ) : Option (Record σ) :=
  if items.length ≤ names.length then some ⟨names.zip items⟩ else none

end Record

/-! ## Parts without fields -/

section Plain

variable {σ α : Type} [Source σ]

/-- A text. -/
def text? (x : σ) : Reading String := StateT.lift (Source.text? x)

/-- A double. -/
def float? (x : σ) : Reading Float := StateT.lift (Source.float? x)

/-- A truth value. -/
def bool? (x : σ) : Reading Bool := StateT.lift (Source.bool? x)

/-- A whole number from zero up to below a bound. -/
def natural? (bound : Nat) (x : σ) : Reading Nat := StateT.lift (Source.natural? bound x)

/-- How many values a machine word has. The bound of all indices. -/
def wordBound : Nat := Nat.pow 2 64

/-- The index of a state or node. -/
def index? (x : σ) : Reading Nat := natural? wordBound x

/-- The name of a variant among the given ones, and what it carries. -/
def variant? (names : List String) (x : σ) : Reading (String × Option σ) :=
  StateT.lift (Source.variant? names x)

/-- A list whose items are read alike. -/
def listOf (read : σ → Reading α) (x : σ) : Reading (List α) := do
  let items ← (Source.items? x : Option (List σ))
  items.mapM fun item => do read (← Source.settle item)

end Plain

/-! ## Typed values as a source -/

namespace Value

/-- The name a key stands for. A whole number stands for the name with that index. -/
def keyName? (names : List String) : Value → Option (Option String)
  | .text s => some (some s)
  | .natural n => some names[n]?
  | _ => none

/-- The fields of a map. Keys that are neither texts nor indices spoil it. -/
def fields? (names : List String) (entries : List (Value × Value)) :
    Option (List (String × Value)) := do
  let named ← entries.mapM fun (k, v) => (keyName? names k).map fun name => (name, v)
  return named.filterMap fun (name, v) => name.map fun s => (s, v)

/-- The text of a value that is one. -/
def text? : Value → Option String
  | .text s => some s
  | _ => none

instance : Source Value where
  text? := text?
  natural? bound
    | .natural n => if n < bound then some n else none
    | .negative 0 => if 0 < bound then some 0 else none
    | _ => none
  float?
    | .float x => some x
    | .natural n => some (floatOfNat false n)
    | .negative n => some (floatOfNat (n != 0) n)
    | _ => none
  bool?
    | .bool b => some b
    | _ => none
  isAbsent
    | .null => some true
    | _ => some false
  isTrivial
    | .null => true
    | .map [] => true
    | _ => false
  items?
    | .list items => some items
    | _ => none
  record? names
    | .map entries => StateT.lift ((fields? names entries).bind (Record.ofFields names))
    | .list items => StateT.lift (Record.ofItems names items)
    | _ => failure
  variant? names
    | .text s => some (s, none)
    | .map [(k, v)] => ((keyName? names k).bind id).map fun s => (s, some v)
    | _ => none
  pairs?
    | .map entries =>
      StateT.lift (entries.mapM fun (k, v) => do return (← Value.text? k, ← Value.text? v))
    | _ => failure

/-- The variant that an entry or the first item names, and the other entries or items. -/
def tagged? (tag : String) : Value → Option (String × Value)
  | .map entries => do
    match entries.filter fun e => text? e.1 == some tag with
    | [(_, v)] => return (← text? v, .map (entries.filter fun e => text? e.1 != some tag))
    | _ => none
  | .list (first :: items) => (text? first).map (·, .list items)
  | _ => none

instance : TypedSource Value where
  tagged? tag v := StateT.lift (tagged? tag v)
  value? := pure

end Value

end LoadPlan.Document
