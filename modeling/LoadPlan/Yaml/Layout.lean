import LoadPlan.Yaml.BlockText
import LoadPlan.Yaml.PlainText
import LoadPlan.Yaml.Property
/-!
# Layout

Indentation and colons become tokens: a block starts where something lies deeper than the block
around it, and ends where something lies less deep. What stands before a colon turns out to be a
key only when the colon is seen, so its place in the tokens is remembered until then. Such a key
lies on one line and is not longer than 1024 bytes.
-/

namespace LoadPlan.Yaml

/-- A place where a key may start. -/
structure PossibleKey where
  /-- How many tokens are before it. -/
  token : Nat
  index : Nat
  line : Nat
  column : Nat
  /-- Must it turn out to be a key? -/
  required : Bool

/-- The tokens of the text up to a position, and what decides on the tokens after it. -/
structure Layout where
  cursor : Cursor
  tokens : Array Token
  /-- The columns of the open blocks, the innermost first. -/
  indents : List Nat
  /-- The last possible key between the innermost brackets. -/
  key : Option PossibleKey
  /-- The possible keys outside of each pair of open brackets. -/
  outerKeys : List (Option PossibleKey)
  /-- May a key start here? -/
  keyAllowed : Bool

namespace Layout

/-- Nothing is read yet. -/
def start (cs : List Char) : Layout := ⟨.start cs, #[], [], none, [], true⟩

/-- Are there open brackets? -/
def inFlow (s : Layout) : Bool := !s.outerKeys.isEmpty

/-- Add a token that ends at a position. -/
def push (s : Layout) (t : Token) (c : Cursor) : Layout :=
  { s with tokens := s.tokens.push t, cursor := c }

/-- Say whether a key may start after this. -/
def allowKey (s : Layout) (allowed : Bool) : Layout := { s with keyAllowed := allowed }

/-- Give up the possible key, unless it is required. -/
def dropKey (s : Layout) : Option Layout :=
  if s.key.any (·.required) then none else some { s with key := none }

/-- Remember the position as a possible key, if a key may start here. -/
def saveKey (s : Layout) : Option Layout :=
  if s.keyAllowed then
    let c := s.cursor
    s.dropKey.map fun s => { s with
      key := some ⟨s.tokens.size, c.index, c.line, c.column,
        -- at the column of an open block nothing else than a key can start
        !s.inFlow && s.indents.head? == some c.column⟩ }
  else some s

/-- Is a key too far back for a position? -/
def PossibleKey.isStale (k : PossibleKey) (c : Cursor) : Bool :=
  decide (k.line < c.line) || decide (k.index + 1024 < c.index)

/-- A possible key that is not too far back; a required one must not be. -/
def freshKey (c : Cursor) (key : Option PossibleKey) : Option (Option PossibleKey) :=
  match key with
  | some k => if PossibleKey.isStale k c then if k.required then none else some none
    else some (some k)
  | none => some none

/-- Give up the possible keys that are too far back. -/
def dropStaleKeys (s : Layout) : Option Layout := do
  return { s with key := ← freshKey s.cursor s.key,
                  outerKeys := ← s.outerKeys.mapM (freshKey s.cursor) }

/-- Open a block at a column that lies deeper than the block around it. Its token comes before the
token with the index `place`. -/
def indentTo (s : Layout) (column : Nat) (t : Token) (place : Nat) : Layout :=
  if s.inFlow || s.indents.head?.any (fun n => decide (column ≤ n)) then s
  else { s with indents := column :: s.indents, tokens := s.tokens.insertIdxIfInBounds place t }

/-- Close the blocks that lie deeper than a column, or all. -/
def dedentTo (s : Layout) (column : Option Nat) : Layout :=
  if s.inFlow then s
  else
    let deeper := fun n => column.all fun m => decide (m < n)
    { s with indents := s.indents.dropWhile deeper,
             tokens := s.tokens ++ ((s.indents.takeWhile deeper).map fun _ => Token.blockEnd) }

/-- The position of the next token. A tab is no indentation. A byte order mark may start a line,
where it takes a column. -/
def skipSpace : Nat → Layout → Layout
  | 0, s => s
  | fuel + 1, s =>
    let c := s.cursor
    let c := if c.column == 0 && c.sees '\ufeff' then c.next else c
    let c := c.skipWhile fun x => x == ' ' || ((s.inFlow || !s.keyAllowed) && x == '\t')
    let c := c.skipComment
    if c.rest.head?.any isBreak then
      skipSpace fuel { s with cursor := c.takeBreak.2, keyAllowed := s.keyAllowed || !s.inFlow }
    else { s with cursor := c }

/-- The end of all blocks before a line that does not belong to the content. -/
def leaveContent (s : Layout) : Option Layout := ((s.dedentTo none).dropKey).map (·.allowKey false)

/-- A line that separates documents. -/
def documentMark (s : Layout) (t : Token) : Option Layout :=
  s.leaveContent.map fun s => s.push t (s.cursor.advance 3)

/-- A directive. -/
def directive (s : Layout) : Option Layout := do
  let s ← s.leaveContent
  let (t, c) ← takeDirective s.cursor.next
  return s.push t c

/-- An opening bracket. -/
def openFlow (s : Layout) (t : Token) : Option Layout := do
  let s ← s.saveKey
  let s := { s with key := none, outerKeys := s.key :: s.outerKeys }
  return (s.push t s.cursor.next).allowKey true

/-- A closing bracket. -/
def closeFlow (s : Layout) (t : Token) : Option Layout := do
  let s ← s.dropKey
  let s := match s.outerKeys with
    | [] => s
    | key :: rest => { s with key, outerKeys := rest }
  return (s.push t s.cursor.next).allowKey false

/-- A comma between brackets. -/
def comma (s : Layout) : Option Layout :=
  s.dropKey.map fun s => (s.push .comma s.cursor.next).allowKey true

/-- The mark of an item. -/
def item (s : Layout) : Option Layout :=
  if s.inFlow || s.keyAllowed then
    (s.indentTo s.cursor.column .blockList s.tokens.size).dropKey.map fun s =>
      (s.push .item s.cursor.next).allowKey true
  else none

/-- The mark of a key. -/
def keyMark (s : Layout) : Option Layout :=
  if s.inFlow || s.keyAllowed then
    (s.indentTo s.cursor.column .blockMap s.tokens.size).dropKey.map fun s =>
      (s.push .key s.cursor.next).allowKey !s.inFlow
  else none

/-- The mark of a value. The possible key before it is one. -/
def valueMark (s : Layout) : Option Layout :=
  match s.key with
  | some k =>
    -- the block, if the key starts one, goes before the mark of its first key
    let s := { s with tokens := s.tokens.insertIdxIfInBounds k.token .key, key := none }
    let s := s.indentTo k.column .blockMap k.token
    some ((s.push .value s.cursor.next).allowKey false)
  | none =>
    if s.inFlow || s.keyAllowed then
      let s := s.indentTo s.cursor.column .blockMap s.tokens.size
      some ((s.push .value s.cursor.next).allowKey !s.inFlow)
    else none

/-- A token that may start a key. -/
def withKey (s : Layout) (take : Cursor → Option (Token × Cursor)) : Option Layout := do
  let s ← s.saveKey
  let (t, c) ← take s.cursor
  return (s.push t c).allowKey false

/-- A quoted scalar. -/
def quoted (s : Layout) (style : Style) : Option Layout :=
  s.withKey fun c =>
    (takeQuoted (style == .doubleQuoted) (c.left + 1) c.next).map fun (text, c) =>
      (.scalar style text, c)

/-- A block scalar. -/
def block (s : Layout) (style : Style) : Option Layout := do
  let s ← s.dropKey
  let (text, c) ← takeBlock (style == .literal) s.indents.head? s.cursor.next
  return (s.push (.scalar style text) c).allowKey true

/-- A plain scalar. After a line break a key may start again. -/
def plain (s : Layout) : Option Layout := do
  let s ← s.saveKey
  let indent := s.indents.head?.elim 0 (· + 1)
  let p ← takePlain s.inFlow indent (s.cursor.left + 1) s.cursor
  return (s.push (.scalar .plain p.text) p.next).allowKey p.broken

/-- Characters that start no plain scalar unless a word follows some of them. -/
def indicators : List Char :=
  ['-', '?', ':', ',', '[', ']', '{', '}', '#', '&', '*', '!', '|', '>', '\'', '"', '%', '@', '\x60']

/-- Does a plain scalar start with this character and the text after it? -/
def startsPlain (inFlow : Bool) (x : Char) (rest : List Char) : Bool :=
  !(isSpace x || indicators.contains x) ||
    (x == '-' && !rest.head?.any isBlank) ||
    (!inFlow && (x == '?' || x == ':') && !atSpace rest)

/-- Add the token that starts with a character. -/
def content (s : Layout) (x : Char) (rest : List Char) : Option Layout :=
  let c := s.cursor
  if c.column == 0 && x == '%' then s.directive
  else if c.atMark '-' then s.documentMark .documentStart
  else if c.atMark '.' then s.documentMark .documentEnd
  else if x == '[' then s.openFlow .flowList
  else if x == '{' then s.openFlow .flowMap
  else if x == ']' then s.closeFlow .flowListEnd
  else if x == '}' then s.closeFlow .flowMapEnd
  else if x == ',' then s.comma
  else if x == '-' && atSpace rest then s.item
  else if x == '?' && (s.inFlow || atSpace rest) then s.keyMark
  else if x == ':' && (s.inFlow || atSpace rest) then s.valueMark
  else if x == '*' then
    s.withKey fun c => (takeName c.next).map fun (name, c) => (.alias name, c)
  else if x == '&' then
    s.withKey fun c => (takeName c.next).map fun (name, c) => (.anchor name, c)
  else if x == '!' then s.withKey (takeTag s.inFlow)
  else if x == '|' && !s.inFlow then s.block .literal
  else if x == '>' && !s.inFlow then s.block .folded
  else if x == '\'' then s.quoted .singleQuoted
  else if x == '"' then s.quoted .doubleQuoted
  else if startsPlain s.inFlow x rest then s.plain
  else none

/-- Add the tokens of the rest of the text. -/
def run : Nat → Layout → Option (List Token)
  | 0, _ => none
  | fuel + 1, s => do
    let s := s.skipSpace (s.cursor.left + 1)
    let s ← s.dropStaleKeys
    let s := s.dedentTo (some s.cursor.column)
    match s.cursor.rest with
    | [] => return (← s.leaveContent).tokens.toList
    | x :: rest => run fuel (← s.content x rest)

end Layout

/-- The tokens of a text. -/
def tokens (cs : List Char) : Option (List Token) :=
  if cs.all isPrintable then Layout.run (cs.length + 1) (Layout.start cs) else none

end LoadPlan.Yaml
