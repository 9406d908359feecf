import LoadPlan.Json.Value
import LoadPlan.Text.Hex
/-!
# Reading JSON

A text is read into a value if it follows the grammar: one value with white space around it.
Whether a number is in range and a text has characters is left to whoever uses the value.
-/

namespace LoadPlan.Json

/-- White space between tokens. -/
def isSpace (c : Char) : Bool := c == ' ' || c == '\n' || c == '\t' || c == '\r'

/-- The text without white space at its start. -/
def skipSpace (cs : List Char) : List Char := cs.dropWhile isSpace

/-- The digit runs of a number, as written: the part read and the rest. At least one digit. -/
def takeDigits (cs : List Char) : Option (List Char × List Char) :=
  match cs.takeWhile Char.isDigit with
  | [] => none
  | digits => some (digits, cs.dropWhile Char.isDigit)

/-- The whole part of a number. It starts with zero only if it is zero. -/
def takeWhole : List Char → Option (List Char × List Char)
  | '0' :: rest => some (['0'], rest)
  | cs => takeDigits cs

/-- The fraction of a number, if there is one. -/
def takeFraction : List Char → Option (List Char × List Char)
  | '.' :: rest => (takeDigits rest).map fun (digits, rest) => ('.' :: digits, rest)
  | cs => some ([], cs)

/-- The exponent of a number, if there is one. -/
def takeExponent : List Char → Option (List Char × List Char)
  | e :: rest =>
    if e == 'e' || e == 'E' then
      match rest with
      | s :: rest' =>
        if s == '+' || s == '-' then
          (takeDigits rest').map fun (digits, rest) => (e :: s :: digits, rest)
        else (takeDigits rest).map fun (digits, rest) => (e :: digits, rest)
      | [] => none
    else some ([], e :: rest)
  | [] => some ([], [])

/-- A number as it is written, and the rest. -/
def takeNumber (cs : List Char) : Option (List Char × List Char) := do
  let (sign, cs) := match cs with
    | '-' :: rest => (['-'], rest)
    | cs => ([], cs)
  let (whole, cs) ← takeWhole cs
  let (fraction, cs) ← takeFraction cs
  let (exponent, cs) ← takeExponent cs
  return (sign ++ whole ++ fraction ++ exponent, cs)

/-- A character written as a backslash and one letter. -/
def simpleEscape? : Char → Option Char
  | '"' => some '"'
  | '\\' => some '\\'
  | '/' => some '/'
  | 'b' => some '\x08'
  | 'f' => some '\x0c'
  | 'n' => some '\n'
  | 'r' => some '\r'
  | 't' => some '\t'
  | _ => none

/-- The character that two halves of a surrogate pair make. -/
def pairValue (high low : Nat) : Nat := 0x10000 + (high - 0xD800) * 0x400 + (low - 0xDC00)

/-- Is the number the first half of a surrogate pair? -/
def isHigh (n : Nat) : Bool := 0xD800 ≤ n && n < 0xDC00

/-- Is the number the second half of a surrogate pair? -/
def isLow (n : Nat) : Bool := 0xDC00 ≤ n && n < 0xE000

/-- What a text is made of. -/
inductive TextUnit where
  | char (c : Char)
  /-- An escaped number, which may be half of a surrogate pair. -/
  | code (n : Nat)

/-- The parts of a text up to its closing quote, and the rest. -/
def takeUnits : List Char → Option (List TextUnit × List Char)
  | [] => none
  | '"' :: rest => some ([], rest)
  | '\\' :: 'u' :: a :: b :: c :: d :: rest => do
    let n ← Text.hexNumber? [a, b, c, d]
    let (units, rest) ← takeUnits rest
    return (.code n :: units, rest)
  | ['\\'] => none
  | '\\' :: e :: rest => do
    let c ← simpleEscape? e
    let (units, rest) ← takeUnits rest
    return (.char c :: units, rest)
  | c :: rest =>
    if c.toNat < 0x20 then none
    else do
      let (units, rest) ← takeUnits rest
      return (.char c :: units, rest)

/-- The characters of a text, none if half of a surrogate pair is left over. -/
def unitsChars? : List TextUnit → Option (List Char)
  | [] => some []
  | .char c :: rest => (unitsChars? rest).map (c :: ·)
  | .code high :: .code low :: rest =>
    if isHigh high then
      if isLow low then (unitsChars? rest).map (Char.ofNat (pairValue high low) :: ·) else none
    else if isLow high then none
    else (unitsChars? (.code low :: rest)).map (Char.ofNat high :: ·)
  | .code n :: rest =>
    if isHigh n || isLow n then none else (unitsChars? rest).map (Char.ofNat n :: ·)

/-- A text after its opening quote, and the rest. -/
def takeText (cs : List Char) : Option (Option String × List Char) :=
  (takeUnits cs).map fun (units, rest) =>
    ((unitsChars? units).map String.ofList, rest)

/-- A given word, and the rest. -/
def takeWord (word : List Char) (v : Json) (cs : List Char) : Option (Json × List Char) :=
  if word.isPrefixOf cs then some (v, cs.drop word.length) else none

mutual

/-- A value and the rest. The fuel bounds the number of steps; one for each character will do. -/
def takeValue : Nat → List Char → Option (Json × List Char)
  | 0, _ => none
  | fuel + 1, cs =>
    match skipSpace cs with
    | '{' :: rest =>
      match skipSpace rest with
      | '}' :: rest => some (.object [], rest)
      | rest => (takeFields fuel rest).map fun (fields, rest) => (.object fields, rest)
    | '[' :: rest =>
      match skipSpace rest with
      | ']' :: rest => some (.list [], rest)
      | rest => (takeItems fuel rest).map fun (items, rest) => (.list items, rest)
    | '"' :: rest => (takeText rest).map fun (s, rest) => (.text s, rest)
    | 'n' :: rest => takeWord "ull".toList .null rest
    | 't' :: rest => takeWord "rue".toList (.bool true) rest
    | 'f' :: rest => takeWord "alse".toList (.bool false) rest
    | rest => (takeNumber rest).map fun (literal, rest) => (.number literal, rest)

/-- The items up to a closing bracket, at least one, and the rest. -/
def takeItems : Nat → List Char → Option (List Json × List Char)
  | 0, _ => none
  | fuel + 1, cs => do
    let (item, rest) ← takeValue fuel cs
    match skipSpace rest with
    | ',' :: rest =>
      let (items, rest) ← takeItems fuel rest
      return (item :: items, rest)
    | ']' :: rest => return ([item], rest)
    | _ => none

/-- The fields up to a closing brace, at least one, and the rest. -/
def takeFields : Nat → List Char → Option (List (Option String × Json) × List Char)
  | 0, _ => none
  | fuel + 1, cs => do
    match skipSpace cs with
    | '"' :: rest =>
      let (key, rest) ← takeText rest
      match skipSpace rest with
      | ':' :: rest =>
        let (value, rest) ← takeValue fuel rest
        match skipSpace rest with
        | ',' :: rest =>
          let (fields, rest) ← takeFields fuel rest
          return ((key, value) :: fields, rest)
        | '}' :: rest => return ([(key, value)], rest)
        | _ => none
      | _ => none
    | _ => none

end

/-- The value that a text is. -/
def readChars (cs : List Char) : Option Json := do
  let (v, rest) ← takeValue (cs.length + 1) cs
  if (skipSpace rest).isEmpty then some v else none

/-- The value that a text is. -/
def read (s : String) : Option Json := readChars s.toList

end LoadPlan.Json
