import LoadPlan.Text.Bytes
/-!
# Positions in a YAML text

A `Cursor` is the rest of a text together with where it starts. Indentation is counted in
columns, and how far apart two positions are in bytes.
-/

namespace LoadPlan.Yaml

/-- May the character occur in a text? Control characters and a few others may not. -/
def isPrintable (c : Char) : Bool :=
  let n := c.toNat
  n == 9 || n == 10 || n == 13 || (0x20 ≤ n && n ≤ 0x7E) || n == 0x85 ||
    (0xA0 ≤ n && n ≤ 0xFFFD) || 0x10000 ≤ n

/-- Is the character a space or a tab? -/
def isBlank (c : Char) : Bool := c == ' ' || c == '\t'

/-- Does the character end a line? -/
def isBreak (c : Char) : Bool :=
  c == '\n' || c == '\r' || c == '\u0085' || c == '\u2028' || c == '\u2029'

/-- Does the character end a word? -/
def isSpace (c : Char) : Bool := isBlank c || isBreak c

/-- Is the character a letter, a digit, a hyphen or an underscore? -/
def isWordChar (c : Char) : Bool := c.isAlphanum || c == '-' || c == '_'

/-- Does the text start with something that ends a word, or is it over? -/
def atSpace : List Char → Bool
  | [] => true
  | c :: _ => isSpace c

/-- Is the rest of the line over? -/
def atBreak : List Char → Bool
  | [] => true
  | c :: _ => isBreak c

/-- The rest of a text, and where it starts. -/
structure Cursor where
  rest : List Char
  /-- How many characters are left. -/
  left : Nat
  left_eq : left = rest.length
  /-- How many bytes are before it. -/
  index : Nat
  /-- How many lines are before it. -/
  line : Nat
  /-- How many characters of its line are before it. -/
  column : Nat

namespace Cursor

/-- The start of a text. -/
def start (cs : List Char) : Cursor := ⟨cs, cs.length, rfl, 0, 0, 0⟩

/-- The position `n` characters further on the same line. -/
def advance (c : Cursor) (n : Nat) : Cursor :=
  ⟨c.rest.drop n, c.left - n, by rw [c.left_eq, List.length_drop],
    c.index + Text.byteLength (c.rest.take n), c.line, c.column + n⟩

/-- The next position on the same line. -/
def next (c : Cursor) : Cursor := c.advance 1

/-- The next position whose character fails the test. -/
def skipWhile (p : Char → Bool) (c : Cursor) : Cursor := c.advance (c.rest.takeWhile p).length

/-- Is the next character this one? -/
def sees (c : Cursor) (x : Char) : Bool := c.rest.head? == some x

/-- Is the next character one of these? -/
def seesAny (c : Cursor) (xs : List Char) : Bool := c.rest.head?.any xs.contains

/-- Does a line start here with three of these characters as a word of their own? -/
def atMark (c : Cursor) (x : Char) : Bool :=
  c.column == 0 && c.rest.take 3 == [x, x, x] && atSpace (c.rest.drop 3)

/-- Does a line start here that separates documents? -/
def atDocumentMark (c : Cursor) : Bool := c.atMark '-' || c.atMark '.'

/-- The start of the next line, `n` characters further. -/
def newLine (c : Cursor) (n : Nat) : Cursor :=
  ⟨c.rest.drop n, c.left - n, by rw [c.left_eq, List.length_drop],
    c.index + Text.byteLength (c.rest.take n), c.line + 1, 0⟩

/-- The line break at the position as the text it stands for, and the position after it. All
breaks but the two separators stand for a line feed. Without a break nothing is taken. -/
def takeBreak (c : Cursor) : List Char × Cursor :=
  match c.rest with
  | '\r' :: '\n' :: _ => (['\n'], c.newLine 2)
  | x :: _ =>
    if x == '\u2028' || x == '\u2029' then ([x], c.newLine 1)
    else if isBreak x then (['\n'], c.newLine 1)
    else ([], c)
  | [] => ([], c)

/-- The position after a comment, or the same one. -/
def skipComment (c : Cursor) : Cursor :=
  if c.sees '#' then c.skipWhile fun x => !isBreak x else c

/-- The start of the next line, if nothing but blanks and a comment is left on this one. -/
def finishLine? (c : Cursor) : Option Cursor :=
  let c := (c.skipWhile isBlank).skipComment
  if atBreak c.rest then some c.takeBreak.2 else none

end Cursor

end LoadPlan.Yaml
