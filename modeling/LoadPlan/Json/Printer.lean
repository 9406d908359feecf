import LoadPlan.Json.Value
/-!
# Writing JSON

Two layouts: `compact` has no white space, `pretty` puts every item and field on a line of its
own, indented by two spaces a level.
-/

namespace LoadPlan.Json

/-- A hexadecimal digit in lower case. -/
def hexDigit (n : Nat) : Char := Nat.digitChar n

/-- A character between quotes. -/
def escape (c : Char) : List Char :=
  if c = '"' then ['\\', '"']
  else if c = '\\' then ['\\', '\\']
  else if c = '\n' then ['\\', 'n']
  else if c = '\r' then ['\\', 'r']
  else if c = '\t' then ['\\', 't']
  else if c = '\x08' then ['\\', 'b']
  else if c = '\x0c' then ['\\', 'f']
  else if c.toNat < 0x20 then
    ['\\', 'u', '0', '0', hexDigit (c.toNat / 16), hexDigit (c.toNat % 16)]
  else [c]

/-- A text between quotes. -/
def quoted (s : String) : List Char := '"' :: s.toList.flatMap escape ++ ['"']

/-- A value that holds no others, if it is one. A text without characters is written as an empty
one. -/
def leafChars : Json → List Char
  | .null => "null".toList
  | .bool b => if b then "true".toList else "false".toList
  | .number literal => literal
  | .text s => quoted (s.getD "")
  | .list _ => ['[', ']']
  | .object _ => ['{', '}']

mutual

/-- A value without white space. -/
def compactChars : Json → List Char
  | .list (item :: items) => '[' :: compactChars item ++ compactItems items ++ [']']
  | .object ((key, value) :: fields) =>
    '{' :: quoted (key.getD "") ++ ':' :: compactChars value ++ compactFields fields ++ ['}']
  | leaf => leafChars leaf

/-- The items after the first. -/
def compactItems : List Json → List Char
  | [] => []
  | item :: items => ',' :: compactChars item ++ compactItems items

/-- The fields after the first. -/
def compactFields : List (Option String × Json) → List Char
  | [] => []
  | (key, value) :: fields =>
    ',' :: quoted (key.getD "") ++ ':' :: compactChars value ++ compactFields fields

end

/-- The start of a line at some level. -/
def newLine (level : Nat) : List Char := '\n' :: List.replicate (2 * level) ' '

mutual

/-- A value whose first line starts at some level. -/
def prettyChars (level : Nat) : Json → List Char
  | .list (item :: items) =>
    '[' :: newLine (level + 1) ++ prettyChars (level + 1) item ++ prettyItems (level + 1) items ++
      newLine level ++ [']']
  | .object ((key, value) :: fields) =>
    '{' :: newLine (level + 1) ++ quoted (key.getD "") ++ ':' :: ' ' ::
      prettyChars (level + 1) value ++ prettyFields (level + 1) fields ++ newLine level ++ ['}']
  | leaf => leafChars leaf

/-- The items after the first. -/
def prettyItems (level : Nat) : List Json → List Char
  | [] => []
  | item :: items => ',' :: newLine level ++ prettyChars level item ++ prettyItems level items

/-- The fields after the first. -/
def prettyFields (level : Nat) : List (Option String × Json) → List Char
  | [] => []
  | (key, value) :: fields =>
    ',' :: newLine level ++ quoted (key.getD "") ++ ':' :: ' ' :: prettyChars level value ++
      prettyFields level fields

end

/-- The value on one line. -/
def compact (v : Json) : String := String.ofList (compactChars v)

/-- The value on indented lines. -/
def pretty (v : Json) : String := String.ofList (prettyChars 0 v)

end LoadPlan.Json
