/-!
# TOML tables

What a configuration text holds. A table remembers how it came to be, since that decides whether
later lines may add to it: a table in braces is complete, a header may name a table once, and
dotted keys add only to tables that dotted keys have made.
-/

namespace LoadPlan.Toml

/-- How a table came to be. -/
inductive Origin where
  /-- It is written in braces. -/
  | inline
  /-- A header names it. -/
  | header
  /-- A longer header goes through it. -/
  | implied
  /-- A dotted key goes through it. -/
  | dotted
deriving DecidableEq, Repr

/-- What stands under a key. -/
inductive Value where
  | text (s : String)
  | bool (b : Bool)
  | integer (n : Int)
  | float (x : Float)
  /-- A date, a time or both. No setting is one. -/
  | moment
  | list (items : List Value)
  | table (origin : Origin) (fields : List (String × Value))
  /-- Tables that headers have put under one key. -/
  | tables (items : List Value)

namespace Value

/-- The value under a key of some fields. -/
def find? (key : String) (fields : List (String × Value)) : Option Value :=
  (fields.find? fun f => f.1 == key).map (·.2)

/-- Put a value under a key in place of the one there. -/
def put (key : String) (v : Value) (fields : List (String × Value)) : List (String × Value) :=
  (key, v) :: fields.filter fun f => f.1 != key

/-- May a path go through a table? -/
def isOpen (dotted : Bool) : Origin → Bool
  | .inline => false
  | .header => !dotted
  | .implied => true
  | .dotted => true

/-- The origin of a table that a path makes on its way. -/
def made (dotted : Bool) : Origin := if dotted then .dotted else .implied

/-- Change the table that a path leads to; missing tables are made. Through tables under one key
it goes on in the last one. -/
def update (dotted : Bool) (change : Value → Option Value) : List String → Value → Option Value
  | [], t => change t
  | key :: path, .table origin fields => do
    let next ← match find? key fields with
      | none => update dotted change path (.table (made dotted) [])
      -- a path means the table that was added last
      | some (.tables items) => do
        let last ← update dotted change path (← items.getLast?)
        pure (.tables (items.dropLast ++ [last]))
      | some (.table o fs) =>
        if isOpen dotted o then update dotted change path (.table o fs) else none
      | some _ => none
    return .table origin (put key next fields)
  | _, _ => none

/-- A table in which a header names the table under `key`. -/
def withHeader (key : String) : Value → Option Value
  | .table origin fields =>
    match find? key fields with
    | none => some (.table origin (put key (.table .header []) fields))
    | some (.table .implied fs) => some (.table origin (put key (.table .header fs) fields))
    | _ => none
  | _ => none

/-- A table in which a header adds one more table under `key`. -/
def withItem (key : String) : Value → Option Value
  | .table origin fields =>
    let item := Value.table .header []
    match find? key fields with
    | none => some (.table origin (put key (.tables [item]) fields))
    | some (.tables items) => some (.table origin (put key (.tables (items ++ [item])) fields))
    | _ => none
  | _ => none

/-- A table with a value under a key that is new. A dotted key needs a table that dotted keys have
made, any other key a table that they have not made. -/
def withField (dotted : Bool) (key : String) (v : Value) : Value → Option Value
  | .table origin fields =>
    if dotted == decide (origin = .dotted) && (find? key fields).isNone then
      some (.table origin (put key v fields))
    else none
  | _ => none

/-- A table with a value under a key, which may be dotted. -/
def insert (t : Value) (path : List String) (v : Value) : Option Value := do
  let key ← path.getLast?
  let way := path.dropLast
  t.update true (withField (!way.isEmpty) key v) way

end Value

/-- A line that says something. -/
inductive Line where
  | field (path : List String) (v : Value)
  | header (path : List String)
  | itemHeader (path : List String)

/-- A whole configuration so far, and the table that fields go to. -/
structure Outline where
  root : Value
  here : List String

namespace Outline

/-- An empty configuration. -/
def empty : Outline := ⟨.table .header [], []⟩

/-- The configuration after one more line. -/
def add (o : Outline) : Line → Option Outline
  | .field path v => do return { o with root := ← o.root.update false (·.insert path v) o.here }
  | .header path => do
    return ⟨← o.root.update false (Value.withHeader (← path.getLast?)) path.dropLast, path⟩
  | .itemHeader path => do
    return ⟨← o.root.update false (Value.withItem (← path.getLast?)) path.dropLast, path⟩

end Outline

/-- The table that some lines make. -/
def Value.ofLines? (ls : List Line) : Option Value := (ls.foldlM Outline.add Outline.empty).map (·.root)

end LoadPlan.Toml
