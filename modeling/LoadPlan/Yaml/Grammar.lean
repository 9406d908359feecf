import LoadPlan.Yaml.Layout
import LoadPlan.Yaml.Node
/-!
# From tokens to nodes

A text holds at most one document. What may be left out, a key or a value, is an empty scalar.
An alias must follow the anchor it refers to.
-/

namespace LoadPlan.Yaml

/-- What is left to read, and the names of the anchors so far with their numbers. -/
structure Remainder where
  tokens : List Token
  anchors : List (List Char × Nat)

/-- Reading some of the tokens. -/
abbrev Grammar (α : Type) : Type := StateT Remainder Option α

namespace Grammar

/-- The next token, none at the end of the text. -/
def peek? : Grammar (Option Token) := return (← get).tokens.head?

/-- Leave the next token out. -/
def skip : Grammar Unit := modify fun r => { r with tokens := r.tokens.tail }

/-- Is the next token one of these? -/
def sees (ts : List Token) : Grammar Bool := return (← peek?).any ts.contains

/-- Leave the next token out if it is this one, and say so. -/
def accept (t : Token) : Grammar Bool := do
  if ← sees [t] then
    skip
    return true
  else return false

/-- The next token must be this one. It is left out. -/
def expect (t : Token) : Grammar Unit := do
  if !(← accept t) then failure

/-- The number of a new anchor. -/
def nameAnchor (name : List Char) : Grammar Nat := do
  let r ← get
  let n := r.anchors.length
  set { r with anchors := (name, n) :: r.anchors.filter fun a => a.1 != name }
  return n

/-- The number an anchor has now. -/
def findAnchor (name : List Char) : Grammar Nat := do
  match (← get).anchors.find? fun a => a.1 == name with
  | some (_, n) => return n
  | none => failure

/-- What the handles of tags stand for. -/
abbrev Handles : Type := List (List Char × Tag)

/-- The handles of every document. -/
def standardHandles : Handles :=
  [(['!'], Tag.ofChars ['!']), ("!!".toList, Tag.ofChars "tag:yaml.org,2002:".toList)]

/-- The whole tag. -/
def resolveTag (handles : Handles) (handle : List Char) (rest : Tag) : Grammar Tag :=
  if handle.isEmpty then return rest
  else match handles.find? fun h => h.1 == handle with
    | some (_, meaning) => return meaning ++ rest
    | none => failure

/-- The anchor, if there is one. -/
def anchor : Grammar (Option (List Char)) := do
  match ← peek? with
  | some (.anchor name) =>
    skip
    return some name
  | _ => return none

/-- The tag, if there is one. -/
def tag (handles : Handles) : Grammar (Option Tag) := do
  match ← peek? with
  | some (.tag handle rest) =>
    skip
    return some (← resolveTag handles handle rest)
  | _ => return none

/-- Anchor and tag in any order. -/
def properties (handles : Handles) : Grammar Properties := do
  match ← anchor with
  | some name => return ⟨← tag handles, some (← nameAnchor name)⟩
  | none =>
    let t ← tag handles
    match ← anchor with
    | some name => return ⟨t, some (← nameAnchor name)⟩
    | none => return ⟨t, none⟩

mutual

/-- A node. Blocks start only where `block` holds; a list without indentation of its own only
where `unindented` holds. -/
def node (handles : Handles) : Nat → Bool → Bool → Grammar Node
  | 0, _, _ => failure
  | fuel + 1, block, unindented => do
    match ← peek? with
    | some (.alias name) =>
      skip
      return .alias (← findAnchor name)
    | _ =>
      let p ← properties handles
      match ← peek? with
      | some .item =>
        if unindented then return .list p (← unindentedItems handles fuel)
        else if p = Properties.none then failure else return .empty p
      | some (.scalar style text) =>
        skip
        return .scalar p style (String.ofList text)
      | some .flowList =>
        skip
        return .list p (← flowItems handles fuel true)
      | some .flowMap =>
        skip
        return .map p (← flowEntries handles fuel true)
      | t =>
        if block && t == some .blockList then
          skip
          return .list p (← blockItems handles fuel)
        else if block && t == some .blockMap then
          skip
          return .map p (← blockEntries handles fuel)
        else if p = Properties.none then failure
        else return .empty p

/-- A node, or an empty scalar before one of these tokens. -/
def nodeBefore (handles : Handles) : Nat → Bool → Bool → List Token → Grammar Node
  | 0, _, _, _ => failure
  | fuel + 1, block, unindented, ends => do
    if ← sees ends then return .empty .none else node handles fuel block unindented

/-- The items of a block list up to its end. -/
def blockItems (handles : Handles) : Nat → Grammar (List Node)
  | 0 => failure
  | fuel + 1 => do
    if ← accept .blockEnd then return []
    expect .item
    let n ← nodeBefore handles fuel true false [.item, .blockEnd]
    return n :: (← blockItems handles fuel)

/-- The items of a list without indentation of its own. -/
def unindentedItems (handles : Handles) : Nat → Grammar (List Node)
  | 0 => failure
  | fuel + 1 => do
    if ← accept .item then
      let n ← nodeBefore handles fuel true false [.item, .key, .value, .blockEnd]
      return n :: (← unindentedItems handles fuel)
    else return []

/-- The entries of a block map up to its end. -/
def blockEntries (handles : Handles) : Nat → Grammar (List (Node × Node))
  | 0 => failure
  | fuel + 1 => do
    if ← accept .blockEnd then return []
    expect .key
    let k ← nodeBefore handles fuel true true [.key, .value, .blockEnd]
    let v ←
      if ← accept .value then nodeBefore handles fuel true true [.key, .value, .blockEnd]
      else pure (.empty .none)
    return (k, v) :: (← blockEntries handles fuel)

/-- The items of a list in brackets up to the closing one. A key makes a map of one entry; if the
key itself is missing, the token after its mark is left out. -/
def flowItems (handles : Handles) : Nat → Bool → Grammar (List Node)
  | 0, _ => failure
  | fuel + 1, first => do
    if ← accept .flowListEnd then return []
    if !first then
      expect .comma
    if ← accept .flowListEnd then return []
    let n ←
      if ← accept .key then do
        let k ←
          if ← sees [.value, .comma, .flowListEnd] then do
            skip
            pure (.empty .none)
          else node handles fuel false false
        let v ←
          if ← accept .value then nodeBefore handles fuel false false [.comma, .flowListEnd]
          else pure (.empty .none)
        pure (.map .none [(k, v)])
      else node handles fuel false false
    return n :: (← flowItems handles fuel false)

/-- The entries of a map in braces up to the closing one. -/
def flowEntries (handles : Handles) : Nat → Bool → Grammar (List (Node × Node))
  | 0, _ => failure
  | fuel + 1, first => do
    if ← accept .flowMapEnd then return []
    if !first then
      expect .comma
    if ← accept .flowMapEnd then return []
    let entry ←
      if ← accept .key then do
        let k ← nodeBefore handles fuel false false [.value, .comma, .flowMapEnd]
        let v ←
          if ← accept .value then nodeBefore handles fuel false false [.comma, .flowMapEnd]
          else pure (.empty .none)
        pure (k, v)
      else do
        pure (← node handles fuel false false, .empty .none)
    return entry :: (← flowEntries handles fuel false)

end

/-- The directives before a document: the version at most once, each handle at most once. -/
def directives : Nat → Bool → Handles → Grammar Handles
  | 0, _, _ => failure
  | fuel + 1, versioned, handles => do
    match ← peek? with
    | some (.version major minor) =>
      if versioned || major != 1 || (minor != 1 && minor != 2) then failure
      skip
      directives fuel true handles
    | some (.handle name meaning) =>
      if handles.any fun h => h.1 == name then failure
      skip
      directives fuel versioned ((name, meaning) :: handles)
    | _ => return handles

/-- Does a directive come next? -/
def seesDirective : Grammar Bool := do
  match ← peek? with
  | some (.version ..) | some (.handle ..) => return true
  | _ => return false

/-- The document of a text, and nothing after it but marks of its end. Directives need a mark of
its start. -/
def document (fuel : Nat) : Grammar Node := do
  if (← peek?).isNone then return .void
  let directed ← seesDirective
  let handles ← directives fuel false []
  let marked ← accept .documentStart
  if directed && !marked then failure
  let n ←
    if marked && ((← peek?).isNone || (← seesDirective) || (← sees [.documentStart, .documentEnd])) then
      pure (.empty .none)
    else node (handles ++ standardHandles) fuel true false
  modify fun r => { r with tokens := r.tokens.dropWhile (· == .documentEnd) }
  if (← peek?).isSome then failure
  return n

end Grammar

/-- The tree of a document, and the nodes that aliases stand for. -/
structure Tree where
  root : Node
  anchors : List (Nat × Node)

namespace Tree

/-- The tree of some tokens. -/
def ofTokens? (ts : List Token) : Option Tree :=
  ((Grammar.document (4 * ts.length + 8)).run ⟨ts, []⟩).map fun (root, _) =>
    ⟨root, root.anchors⟩

/-- The tree of the document that a text holds. -/
def read (s : String) : Option Tree := (tokens s.toList).bind ofTokens?

/-- What a node stands for. -/
def resolve (t : Tree) : Node → Node
  | .alias i => ((t.anchors.reverse.find? fun a => a.1 == i).map (·.2)).getD .void
  | n => n

end Tree

end LoadPlan.Yaml
