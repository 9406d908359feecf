import LoadPlan.Yaml.QuotedText
import LoadPlan.Yaml.Token
/-!
# Anchors, tags and directives

What stands before the content of a node, and before a document.
-/

namespace LoadPlan.Yaml

/-- The characters that may follow the name of an anchor. -/
def anchorEnds : List Char := ['?', ':', ',', ']', '}', '%', '@', '\x60']

/-- The name of an anchor or alias after its sign, and the position after it. -/
def takeName (c : Cursor) : Option (List Char × Cursor) :=
  let name := c.rest.takeWhile isWordChar
  let after := c.advance name.length
  if !name.isEmpty && (atSpace after.rest || after.seesAny anchorEnds) then some (name, after)
  else none

/-- May the character occur in a tag? -/
def isTagChar (c : Char) : Bool :=
  isWordChar c || [';', '/', '?', ':', '@', '&', '=', '+', '$', '.', '!', '~', '*', '\'', '(',
    ')'].contains c

/-- The number of bytes that a character with this first byte has. -/
def byteCount? (first : Nat) : Option Nat :=
  if first < 0x80 then some 1
  else if 0xC0 ≤ first && first < 0xE0 then some 2
  else if 0xE0 ≤ first && first < 0xF0 then some 3
  else if 0xF0 ≤ first && first < 0xF8 then some 4
  else none

/-- A byte written as a percent sign and two digits. -/
def takeByte : List Char → Option Nat
  | '%' :: a :: b :: _ => Text.hexNumber? [a, b]
  | _ => none

/-- The bytes after the first one of a character. -/
def takeMoreBytes : Nat → List Char → Option (List Nat)
  | 0, _ => some []
  | n + 1, cs => do
    let b ← takeByte cs
    if 0x80 ≤ b && b < 0xC0 then return b :: (← takeMoreBytes n (cs.drop 3)) else none

/-- The bytes of a character that is written as them. They need not be a valid character. -/
def takeBytes (cs : List Char) : Option Tag := do
  let first ← takeByte cs
  let n ← byteCount? first
  return (first :: (← takeMoreBytes (n - 1) (cs.drop 3))).map Nat.toUInt8

/-- The rest of a tag: characters that may occur in it, and percent signs with bytes. -/
def takeTagRest (verbatim : Bool) : Nat → Cursor → Option (Tag × Cursor)
  | 0, _ => none
  | fuel + 1, c =>
    match c.rest with
    | [] => some ([], c)
    | x :: _ =>
      if x == '%' then do
        let bytes ← takeBytes c.rest
        let (more, last) ← takeTagRest verbatim fuel (c.advance (3 * bytes.length))
        return (bytes ++ more, last)
      else if isTagChar x || (verbatim && [',', '[', ']'].contains x) then
        (takeTagRest verbatim fuel c.next).map fun (more, last) => (Tag.ofChars [x] ++ more, last)
      else some ([], c)

/-- The rest of a tag; with `needed` it must not be empty. A null byte ends the tag, and what
follows it in the text is left out. -/
def takeTagText (verbatim needed : Bool) (c : Cursor) : Option (Tag × Cursor) := do
  let (bytes, c) ← takeTagRest verbatim (c.left + 1) c
  if needed && bytes.isEmpty then none else return (bytes.takeWhile (· != 0), c)

/-- An exclamation mark, a word, and another exclamation mark if there is one. -/
def takeHandle (c : Cursor) : Option (List Char × Cursor) :=
  if c.sees '!' then
    let word := c.next.rest.takeWhile isWordChar
    let after := c.next.advance word.length
    if after.sees '!' then some ('!' :: word ++ ['!'], after.next) else some ('!' :: word, after)
  else none

/-- Is the text a whole handle? -/
def isHandle (cs : List Char) : Bool := decide (1 < cs.length) && cs.getLast? == some '!'

/-- A tag in angle brackets after its exclamation mark, or a handle and the rest of a tag. A lone
exclamation mark is a tag of its own. -/
def takeTag (inFlow : Bool) (c : Cursor) : Option (Token × Cursor) := do
  let (tag, c) ←
    if c.next.sees '<' then do
      let (text, c) ← takeTagText true true (c.advance 2)
      if c.sees '>' then some (Token.tag [] text, c.next) else none
    else do
      let (handle, c) ← takeHandle c
      if isHandle handle then do
        let (text, c) ← takeTagText false true c
        some (Token.tag handle text, c)
      else do
        let (text, c) ← takeTagText false false c
        let text := Tag.ofChars (handle.drop 1) ++ text
        some (if text.isEmpty then Token.tag [] (Tag.ofChars ['!']) else Token.tag ['!'] text, c)
  if atSpace c.rest || (inFlow && c.sees ',') then return (tag, c) else none

/-- A number of at most nine digits. -/
def takeVersionNumber (c : Cursor) : Option (Nat × Cursor) :=
  let digits := c.rest.takeWhile Char.isDigit
  if digits.isEmpty || decide (9 < digits.length) then none
  else some (Nat.ofDigitChars 10 digits 0, c.advance digits.length)

/-- The version after the name of the directive. -/
def takeVersion (c : Cursor) : Option (Token × Cursor) := do
  let (major, c) ← takeVersionNumber (c.skipWhile isBlank)
  if !c.sees '.' then none
  let (minor, c) ← takeVersionNumber c.next
  return (.version major minor, c)

/-- A handle and what it stands for. -/
def takeHandleMeaning (c : Cursor) : Option (Token × Cursor) := do
  let (name, c) ← takeHandle (c.skipWhile isBlank)
  if name != ['!'] && !isHandle name then none
  if !c.rest.head?.any isBlank then none
  let (meaning, c) ← takeTagText true true (c.skipWhile isBlank)
  if atSpace c.rest then return (.handle name meaning, c) else none

/-- The directive after its percent sign, up to the end of its line. -/
def takeDirective (c : Cursor) : Option (Token × Cursor) := do
  let name := c.rest.takeWhile isWordChar
  let c := c.advance name.length
  if name.isEmpty || !atSpace c.rest then none
  let (token, c) ←
    if name = "YAML".toList then takeVersion c
    else if name = "TAG".toList then takeHandleMeaning c
    else none
  return (token, ← c.finishLine?)

end LoadPlan.Yaml
