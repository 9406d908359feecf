import LoadPlan.Document.Source
import LoadPlan.Yaml.Grammar
import LoadPlan.Yaml.Scalar
/-!
# Documents in YAML

Where a text is expected any scalar is one, whatever it looks like. Parts that have to be typed
as a whole go by the look of their plain scalars and by their tags. Records are maps only; an
empty plain scalar stands for an empty record or list.

Tags that start with an exclamation mark name variants. Typed parts may have no such tags, nor
may they nest deeper than `maxDepth` levels from the root. At most a hundred aliases are followed
for every part of the document.
-/

namespace LoadPlan.Yaml

open Document (Value Record Reading)

/-- How many levels of lists and maps a typed part may lie in. -/
def maxDepth : Nat := 128

/-- A node, the lists and maps around it, and the tree it belongs to. -/
structure Nested where
  tree : Tree
  depth : Nat
  node : Node

/-- A tag of every document. -/
def standardTag (name : String) : Option Tag :=
  some (Tag.ofChars ("tag:yaml.org,2002:" ++ name).toList)

/-- Does a tag start with an exclamation mark? -/
def isOwnTag (t : Tag) : Bool := (Tag.ofChars ['!']).isPrefixOf t

/-- The variant that a tag names. -/
def variantTag? (tag : Option Tag) : Option String := do
  match (← (← tag).text?).toList with
  | ['!'] => some "!"
  | '!' :: rest => some (String.ofList rest)
  | _ => none

/-- The typed value of a scalar. -/
def scalarValue? (p : Properties) (style : Style) (s : String) : Option Value :=
  let cs := s.toList
  if (variantTag? p.tag).isSome then none
  -- a tag like that of a variant that is no text says nothing
  else if p.tag.all isOwnTag then if style = .plain then plainValue? cs else some (.text s)
  else if p.tag = standardTag "bool" then (boolWord? cs).map .bool
  else if p.tag = standardTag "int" then (integer? cs).bind id
  else if p.tag = standardTag "float" then (double? cs).map .float
  else if p.tag = standardTag "null" then if isNullWord cs then some .null else none
  else some (.text s)

/-- The node that a node stands for. -/
def follow (t : Tree) (n : Node) : Reading Node := do
  match n with
  | .alias _ =>
    match ← get with
    | 0 => failure
    | budget + 1 =>
      set budget
      return t.resolve n
  | _ => return n

/-- The typed value of a node with `room` levels left below it. -/
def typed (t : Tree) : Nat → Node → Reading Value
  | room, n => do
    match ← follow t n, room with
    | .void, _ => return .null
    | .scalar p style s, _ => (scalarValue? p style s : Option Value)
    | .list p items, room + 1 =>
      if (variantTag? p.tag).isSome then failure
      return .list (← items.mapM (typed t room))
    | .map p entries, room + 1 =>
      if (variantTag? p.tag).isSome then failure
      return .map (← entries.mapM fun (k, v) => return (← typed t room k, ← typed t room v))
    | _, _ => failure

namespace Nested

/-- A node one level deeper. -/
def inner (x : Nested) (n : Node) : Nested := ⟨x.tree, x.depth + 1, n⟩

/-- How many levels are left. -/
def room (x : Nested) : Nat := maxDepth - x.depth

/-- The node that a node stands for. -/
def settle (x : Nested) : Reading Nested := return { x with node := ← follow x.tree x.node }

/-- The text of a scalar. -/
def text? (x : Nested) : Option String :=
  match x.node with
  | .scalar _ _ s => some s
  | _ => none

/-- The text of a plain scalar, or of a literal one with a tag. -/
def bare? (tag : String) (x : Nested) : Option (List Char) :=
  match x.node with
  | .scalar p style s =>
    if style = .plain || (style = .literal && p.tag = standardTag tag) then some s.toList else none
  | _ => none

/-- Is there nothing, where something of several parts may be? -/
def isVoid (x : Nested) : Bool :=
  match x.node with
  | .void => true
  | .scalar _ style s => style = .plain && s.isEmpty
  | _ => false

/-- Does the node stand for the absence of a value? None if its tag says so, but not its text. -/
def isAbsent (x : Nested) : Option Bool :=
  match x.node with
  | .void => some true
  | .scalar p .plain s =>
    if p.tag = standardTag "null" then if isNullWord s.toList then some true else none
    else some (p.tag = none && (s.isEmpty || isNullWord s.toList))
  | _ => some false

/-- The text of a scalar, or of one that an alias stands for. -/
def settledText (x : Nested) : Reading String := do
  let x ← x.settle
  (x.text? : Option String)

/-- The fields of a map. All keys are scalars. -/
def fields (x : Nested) (entries : List (Node × Node)) : Reading (List (String × Nested)) :=
  entries.mapM fun (k, v) => return (← (x.inner k).settledText, x.inner v)

/-- The node without its tag. -/
def untagged (x : Nested) : Nested :=
  { x with node := match x.node with
    | .scalar p style s => .scalar { p with tag := none } style s
    | .list p items => .list { p with tag := none } items
    | .map p entries => .map { p with tag := none } entries
    | n => n }

/-- The typed values of entries but one, whose key is `tag` and whose value is a text. -/
def taggedEntries (x : Nested) (tag : String) :
    List (Node × Node) → Reading (List String × List (Value × Value))
  | [] => return ([], [])
  | (k, v) :: rest => do
    let room := x.room - 1
    match ← typed x.tree room k with
    | .text name =>
      if name = tag then
        let s ← (x.inner v).settledText
        let (names, entries) ← taggedEntries x tag rest
        return (s :: names, entries)
      else
        let entry := (Value.text name, ← typed x.tree room v)
        let (names, entries) ← taggedEntries x tag rest
        return (names, entry :: entries)
    | key =>
      let entry := (key, ← typed x.tree room v)
      let (names, entries) ← taggedEntries x tag rest
      return (names, entry :: entries)

/-- The variant named by an entry or the first item, and the typed rest. -/
def tagged (tag : String) (x : Nested) : Reading (String × Value) := do
  match x.node with
  | .map p entries =>
    if (variantTag? p.tag).isSome || x.room = 0 then failure
    match ← x.taggedEntries tag entries with
    | ([name], entries) => return (name, .map entries)
    | _ => failure
  | .list p (first :: items) =>
    if (variantTag? p.tag).isSome || x.room = 0 then failure
    let name ← (x.inner first).settledText
    return (name, .list (← items.mapM (typed x.tree (x.room - 1))))
  | _ => failure

/-- The variant that a tag, or the text of a scalar, names. -/
def variant? (x : Nested) : Option (String × Option Nested) :=
  match x.node with
  | .scalar p _ s =>
    match variantTag? p.tag with
    | some name => some (name, some x.untagged)
    | none => some (s, none)
  | .list p _ | .map p _ => (variantTag? p.tag).map (·, some x.untagged)
  | _ => none

/-- Is the node the only value of a type that has one? -/
def isTrivial (x : Nested) : Bool :=
  match x.node with
  | .void => true
  | .scalar _ style s => style = .plain && (s.isEmpty || isNullWord s.toList)
  | _ => false

/-- The fields of a record. -/
def record (names : List String) (x : Nested) : Reading (Record Nested) := do
  match x.node with
  | .map _ entries => do
    let fields ← x.fields entries
    (Record.ofFields names fields : Option (Record Nested))
  | _ => if x.isVoid then return ⟨[]⟩ else failure

/-- The keys and values of a map between texts. -/
def pairs (x : Nested) : Reading (List (String × String)) := do
  match x.node with
  | .map _ entries => (← x.fields entries).mapM fun (k, v) => return (k, ← v.settledText)
  | _ => if x.isVoid then return [] else failure

instance : Document.Source Nested where
  settle := settle
  text? := text?
  natural? bound x := ((x.bare? "int").bind Yaml.natural?).filter (· < bound)
  float? x := (x.bare? "float").bind double?
  bool? x := (x.bare? "bool").bind boolWord?
  isAbsent := isAbsent
  isTrivial := isTrivial
  items? x :=
    match x.node with
    | .list _ items => some (items.map x.inner)
    | _ => if x.isVoid then some [] else none
  record? := record
  variant? _ x := x.variant?
  pairs? := pairs

instance : Document.TypedSource Nested where
  tagged? := tagged
  value? x := typed x.tree x.room x.node

end Nested

/-- Read a document with `read`. -/
def decode {α : Type} (read : Nested → Reading α) (s : String) : Option α :=
  (Tree.read s).bind fun t => (read ⟨t, 0, t.root⟩).run' (100 * t.root.size)

end LoadPlan.Yaml
