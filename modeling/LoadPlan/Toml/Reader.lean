import LoadPlan.Toml.Number
import LoadPlan.Toml.Text
/-!
# Reading TOML

A configuration is read line by line; only lists and long texts go over several lines. Values nest
less than `maxDepth` levels deep, and keys have fewer parts.
-/

namespace LoadPlan.Toml

/-- A bound for nested values and for the parts of a key. -/
def maxDepth : Nat := 80

/-- May the character occur in a key without quotes? -/
def isKeyChar (c : Char) : Bool := c.isAlphanum || c == '-' || c == '_'

/-- One part of a key, and the rest. -/
def takePart (cs : List Char) : Option (String × List Char) :=
  match cs with
  | '"' :: rest => (takeShort '"' (cs.length + 1) rest).map fun (s, rest) => (String.ofList s, rest)
  | '\'' :: rest => (takeShort '\'' (cs.length + 1) rest).map fun (s, rest) => (String.ofList s, rest)
  | _ =>
    let name := cs.takeWhile isKeyChar
    if name.isEmpty then none else some (String.ofList name, cs.dropWhile isKeyChar)

/-- The parts of a key, and the rest. -/
def takeParts : Nat → List Char → Option (List String × List Char)
  | 0, _ => none
  | fuel + 1, cs => do
    let (part, rest) ← takePart (skipBlanks cs)
    match skipBlanks rest with
    | '.' :: rest => do
      let (parts, rest) ← takeParts fuel rest
      return (part :: parts, rest)
    | rest => return ([part], rest)

/-- A key with fewer than `maxDepth` parts, and the rest. -/
def takeKey (cs : List Char) : Option (List String × List Char) := takeParts (maxDepth - 1) cs

/-- The rest after a comment, or the text if it starts with none. -/
def skipComment : List Char → List Char
  | '#' :: rest => rest.dropWhile isVisible
  | cs => cs

/-- The rest after blanks, comments and line breaks, which may stand between the items of a list. -/
def skipFiller : Nat → List Char → List Char
  | 0, cs => cs
  | fuel + 1, cs =>
    match newLine? (skipComment (skipBlanks cs)) with
    | some rest => skipFiller fuel rest
    | none => skipBlanks cs

/-- A given word, and the rest. -/
def takeWord (word : List Char) (v : Value) (cs : List Char) : Option (Value × List Char) :=
  if word.isPrefixOf cs then some (v, cs.drop word.length) else none

mutual

/-- A value with `room` levels left below it, and the rest. -/
def takeValue : Nat → Nat → List Char → Option (Value × List Char)
  | 0, _, _ => none
  | fuel + 1, room, cs =>
    match cs, room with
    | '"' :: _, _ => (takeText '"' cs).map fun (s, rest) => (.text s, rest)
    | '\'' :: _, _ => (takeText '\'' cs).map fun (s, rest) => (.text s, rest)
    | 't' :: _, _ => takeWord "true".toList (.bool true) cs
    | 'f' :: _, _ => takeWord "false".toList (.bool false) cs
    | '[' :: rest, room + 1 =>
      (takeItems fuel room (skipFiller fuel rest)).map fun (items, rest) => (.list items, rest)
    | '{' :: rest, room + 1 =>
      match skipBlanks rest with
      | '}' :: rest => some (.table .inline [], rest)
      | rest => takeFields fuel room (.table .inline []) rest
    | _, _ => (takeMoment cs).or (takeNumber cs)

/-- The items up to a closing bracket, and the rest. -/
def takeItems : Nat → Nat → List Char → Option (List Value × List Char)
  | 0, _, _ => none
  | _ + 1, _, ']' :: rest => some ([], rest)
  | fuel + 1, room, cs => do
    let (item, rest) ← takeValue fuel room cs
    match skipFiller fuel rest with
    | ',' :: rest => do
      let (items, rest) ← takeItems fuel room (skipFiller fuel rest)
      return (item :: items, rest)
    | ']' :: rest => return ([item], rest)
    | _ => none

/-- The table with the fields up to a closing brace, at least one, and the rest. -/
def takeFields : Nat → Nat → Value → List Char → Option (Value × List Char)
  | 0, _, _, _ => none
  | fuel + 1, room, t, cs => do
    let (key, rest) ← takeKey cs
    match rest with
    | '=' :: rest => do
      let (v, rest) ← takeValue fuel room (skipBlanks rest)
      let t ← t.insert key v
      match skipBlanks rest with
      | ',' :: rest => takeFields fuel room t rest
      | '}' :: rest => return (t, rest)
      | _ => none
    | _ => none

end

/-- The rest after the end of a line, which may hold a comment. -/
def takeLineEnd (cs : List Char) : Option (List Char) :=
  match skipComment (skipBlanks cs) with
  | [] => some []
  | rest => newLine? rest

/-- The rest after a closing bracket, as often as it is asked for. -/
def takeBrackets : Nat → List Char → Option (List Char)
  | 0, cs => some cs
  | n + 1, cs => (takeMark ']' cs).bind (takeBrackets n)

/-- A header or a field, and the rest before the end of the line. The text is not longer than
`bound`. -/
def takeLine (bound : Nat) (cs : List Char) : Option (Line × List Char) :=
  match cs with
  | '[' :: '[' :: rest => do
    let (key, rest) ← takeKey rest
    return (.itemHeader key, ← takeBrackets 2 rest)
  | '[' :: rest => do
    let (key, rest) ← takeKey rest
    return (.header key, ← takeBrackets 1 rest)
  | _ => do
    let (key, rest) ← takeKey cs
    let rest ← takeMark '=' rest
    let (v, rest) ← takeValue (2 * bound + 2) (maxDepth - 1) (skipBlanks rest)
    return (.field key v, rest)

/-- The lines that say something. -/
def takeLines : Nat → List Char → Option (List Line)
  | 0, _ => none
  | fuel + 1, cs =>
    let cs := skipBlanks cs
    if cs.isEmpty then some []
    else match takeLineEnd cs with
      | some rest => takeLines fuel rest
      | none => do
        let (line, rest) ← takeLine fuel cs
        return line :: (← takeLines fuel (← takeLineEnd rest))

/-- The text without a byte order mark at its start. -/
def skipMark : List Char → List Char
  | '\ufeff' :: rest => rest
  | cs => cs

/-- The table that a text describes. -/
def read (s : String) : Option Value :=
  let cs := skipMark s.toList
  (takeLines (cs.length + 1) cs).bind Value.ofLines?

end LoadPlan.Toml
