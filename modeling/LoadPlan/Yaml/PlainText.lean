import LoadPlan.Yaml.Gap
/-!
# Plain scalars

A plain scalar goes on until something that cannot belong to it: a colon or a comment sign as
a word of their own, a line that is not indented enough, in brackets also a comma or a bracket.
-/

namespace LoadPlan.Yaml

/-- The characters that end a word in brackets. -/
def flowIndicators : List Char := [',', '[', ']', '{', '}']

/-- The word at the start of a text. In brackets a colon must not touch an indicator. -/
def takeWord (inFlow : Bool) : List Char → Option (List Char)
  | [] => some []
  | c :: rest =>
    if isSpace c then some []
    else if inFlow && c == ':' && rest.head?.any (fun x => x == '?' || flowIndicators.contains x) then
      none
    else if c == ':' && atSpace rest then some []
    else if inFlow && flowIndicators.contains c then some []
    else (takeWord inFlow rest).map (c :: ·)

/-- A plain scalar. -/
structure PlainText where
  text : List Char
  /-- The position after the scalar and the white space that follows it. -/
  next : Cursor
  /-- Does a line end after the scalar? -/
  broken : Bool

/-- The plain scalar at a position. On further lines it starts at the column `indent` or to the
right of it, in brackets anywhere. -/
def takePlain (inFlow : Bool) (indent : Nat) : Nat → Cursor → Option PlainText
  | 0, _ => none
  | fuel + 1, c =>
    if c.atDocumentMark || c.sees '#' then some ⟨[], c, false⟩
    else do
      let word ← takeWord inFlow c.rest
      let c := c.advance word.length
      let (gap, after) ← Gap.take indent false c
      if !gap.broken && gap.blanks.isEmpty then return ⟨word, c, false⟩
      if !inFlow && decide (after.column < indent) then return ⟨word, after, gap.broken⟩
      -- the next word may be on the same line or on a further one
      let more ← takePlain inFlow indent fuel after
      if more.text.isEmpty then return ⟨word, more.next, gap.broken⟩
      return ⟨word ++ gap.text ++ more.text, more.next, more.broken⟩

end LoadPlan.Yaml
