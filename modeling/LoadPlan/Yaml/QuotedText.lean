import LoadPlan.Text.Hex
import LoadPlan.Yaml.Gap
/-!
# Quoted scalars

In single quotes only the quote itself is escaped, by writing it twice. In double quotes a
backslash starts an escape; before a line break it joins the lines.
-/

namespace LoadPlan.Yaml

/-- The character that a letter after a backslash stands for. -/
def letterEscape? : Char → Option Char
  | '0' => some '\x00'
  | 'a' => some '\x07'
  | 'b' => some '\x08'
  | 't' => some '\t'
  | '\t' => some '\t'
  | 'n' => some '\n'
  | 'v' => some '\x0b'
  | 'f' => some '\x0c'
  | 'r' => some '\r'
  | 'e' => some '\x1b'
  | ' ' => some ' '
  | '"' => some '"'
  | '/' => some '/'
  | '\\' => some '\\'
  | 'N' => some '\u0085'
  | '_' => some '\u00a0'
  | 'L' => some '\u2028'
  | 'P' => some '\u2029'
  | _ => none

/-- How many hexadecimal digits follow a letter after a backslash. -/
def digitCount? : Char → Option Nat
  | 'x' => some 2
  | 'u' => some 4
  | 'U' => some 8
  | _ => none

/-- The character an escape stands for and the number of characters after the backslash that
name it. -/
def takeEscape : List Char → Option (Char × Nat)
  | [] => none
  | c :: rest =>
    match digitCount? c with
    | none => (letterEscape? c).map (·, 1)
    | some n => ((Text.hexPrefix? n rest).bind Text.charOf?).map (·, n + 1)

/-- A part of a quoted scalar without white space of its own. -/
structure Stretch where
  text : List Char
  next : Cursor
  /-- Does it end with an escaped line break? -/
  joined : Bool

/-- The stretch up to white space or the closing quote. -/
def takeStretch (double : Bool) : Nat → Cursor → Option Stretch
  | 0, _ => none
  | fuel + 1, c =>
    let put := fun (x : Char) (after : Cursor) =>
      (takeStretch double fuel after).map fun s => { s with text := x :: s.text }
    match c.rest with
    | [] => some ⟨[], c, false⟩
    | x :: rest =>
      if isSpace x then some ⟨[], c, false⟩
      else if double then
        if x == '"' then some ⟨[], c, false⟩
        else if x == '\\' then
          -- an escaped break stands for nothing, and the blanks after it are dropped
          if rest.head?.any isBreak then some ⟨[], c.next.takeBreak.2, true⟩
          else (takeEscape rest).bind fun (y, n) => put y (c.advance (n + 1))
        else put x c.next
      else if x == '\'' then
        if rest.head? == some '\'' then put x (c.advance 2) else some ⟨[], c, false⟩
      else put x c.next

/-- The quoted scalar after its opening quote, and the position after its closing one. -/
def takeQuoted (double : Bool) : Nat → Cursor → Option (List Char × Cursor)
  | 0, _ => none
  | fuel + 1, c =>
    if c.atDocumentMark || c.rest.isEmpty then none
    else do
      let s ← takeStretch double (c.left + 1) c
      if s.next.sees (if double then '"' else '\'') then return (s.text, s.next.next)
      let (gap, after) ← Gap.take 0 s.joined s.next
      let (more, last) ← takeQuoted double fuel after
      return (s.text ++ gap.text ++ more, last)

end LoadPlan.Yaml
