import LoadPlan.Text.Hex
/-!
# TOML texts

A text is in double quotes, where a backslash starts an escape, or in single quotes, where
nothing is escaped. In three quotes it may have several lines.
-/

namespace LoadPlan.Toml

/-- Is the character a space or a tab? -/
def isBlank (c : Char) : Bool := c == ' ' || c == '\t'

/-- May the character occur in a comment or a text? -/
def isVisible (c : Char) : Bool := c == '\t' || (0x20 ≤ c.toNat && c.toNat != 0x7F)

/-- The text without blanks at its start. -/
def skipBlanks (cs : List Char) : List Char := cs.dropWhile isBlank

/-- The rest after a line break. -/
def newLine? : List Char → Option (List Char)
  | '\n' :: rest => some rest
  | '\r' :: '\n' :: rest => some rest
  | _ => none

/-- The rest after a line break, or the text if it starts with none. -/
def skipNewLine (cs : List Char) : List Char := (newLine? cs).getD cs

/-- The rest after blanks and line breaks. -/
def skipLines : Nat → List Char → List Char
  | 0, cs => cs
  | fuel + 1, cs =>
    match newLine? (skipBlanks cs) with
    | some rest => skipLines fuel rest
    | none => skipBlanks cs

/-- A character after a backslash, and the rest. -/
def takeEscape : List Char → Option (Char × List Char)
  | 'b' :: rest => some ('\x08', rest)
  | 't' :: rest => some ('\t', rest)
  | 'n' :: rest => some ('\n', rest)
  | 'f' :: rest => some ('\x0c', rest)
  | 'r' :: rest => some ('\r', rest)
  | '"' :: rest => some ('"', rest)
  | '\\' :: rest => some ('\\', rest)
  | 'u' :: rest => ((Text.hexPrefix? 4 rest).bind Text.charOf?).map (·, rest.drop 4)
  | 'U' :: rest => ((Text.hexPrefix? 8 rest).bind Text.charOf?).map (·, rest.drop 8)
  | _ => none

/-- A text on one line after its opening quote, and the rest after its closing one. -/
def takeShort (quote : Char) : Nat → List Char → Option (List Char × List Char)
  | 0, _ => none
  | _ + 1, [] => none
  | fuel + 1, c :: rest =>
    if c == quote then some ([], rest)
    else if quote == '"' && c == '\\' then do
      let (x, rest) ← takeEscape rest
      let (more, rest) ← takeShort quote fuel rest
      return (x :: more, rest)
    else if isVisible c then do
      let (more, rest) ← takeShort quote fuel rest
      return (c :: more, rest)
    else none

/-- A text on several lines up to its closing quotes, and the rest. Up to two quotes belong to the
text, also right before the closing ones. In double quotes a backslash before a line break joins
the next line that is not blank. -/
def takeLong (quote : Char) : Nat → List Char → Option (List Char × List Char)
  | 0, _ => none
  | _ + 1, [] => none
  | fuel + 1, c :: rest =>
    if c == quote then
      let run := ((c :: rest).takeWhile (· == quote)).length
      if 3 ≤ run then
        -- the last three quotes close the text, the ones before them belong to it
        let kept := min (run - 3) 2
        some (List.replicate kept quote, (c :: rest).drop (kept + 3))
      else do
        let (more, rest) ← takeLong quote fuel ((c :: rest).drop run)
        return (List.replicate run quote ++ more, rest)
    else if quote == '"' && c == '\\' then
      match newLine? (skipBlanks rest) with
      | some next => takeLong quote fuel (skipLines next.length next)
      | none => do
        let (x, rest) ← takeEscape rest
        let (more, rest) ← takeLong quote fuel rest
        return (x :: more, rest)
    else match newLine? (c :: rest) with
      | some next => do
        let (more, rest) ← takeLong quote fuel next
        return ('\n' :: more, rest)
      | none =>
        if isVisible c then do
          let (more, rest) ← takeLong quote fuel rest
          return (c :: more, rest)
        else none

/-- A text from its first quote on, and the rest. -/
def takeText (quote : Char) (cs : List Char) : Option (String × List Char) :=
  let taken :=
    if cs.take 3 == [quote, quote, quote] then
      takeLong quote (cs.length + 1) (skipNewLine (cs.drop 3))
    else takeShort quote (cs.length + 1) (cs.drop 1)
  taken.map fun (text, rest) => (String.ofList text, rest)

end LoadPlan.Toml
