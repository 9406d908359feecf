import LoadPlan.Yaml.Cursor
/-!
# Block scalars

A block scalar is the indented lines below its header. The header may give the indentation, and
what becomes of the breaks after the last line; otherwise the first line that is not empty sets
the indentation, and one break is kept.
-/

namespace LoadPlan.Yaml

/-- What becomes of the breaks at the end. -/
inductive Chomping where
  /-- None is left. -/
  | strip
  /-- The break of the last line is left. -/
  | clip
  /-- All are left. -/
  | keep
deriving DecidableEq, Repr

/-- A chomping sign, and the position after it. -/
def takeChomping (c : Cursor) : Chomping × Cursor :=
  if c.sees '+' then (.keep, c.next) else if c.sees '-' then (.strip, c.next) else (.clip, c)

/-- An indentation digit, which must not be zero, and the position after it. -/
def takeIndentDigit (c : Cursor) : Option (Option Nat × Cursor) :=
  match c.rest.head? with
  | some x =>
    if x == '0' then none
    else if x.isDigit then some (some (x.toNat - 48), c.next)
    else some (none, c)
  | none => some (none, c)

/-- The header after its first sign: sign and digit in any order. -/
def takeHeader (c : Cursor) : Option (Chomping × Option Nat × Cursor) := do
  match takeChomping c with
  | (.clip, c) => do
    let (digit, c) ← takeIndentDigit c
    match digit with
    | none => return (.clip, none, c)
    | some n =>
      let (chomping, c) := takeChomping c
      return (chomping, some n, c)
  | (chomping, c) => do
    let (digit, c) ← takeIndentDigit c
    return (chomping, digit, c)

/-- Breaks of empty lines, the deepest indentation among them and the line after them, and that
line. Spaces are taken up to the column `indent`, or all if it is not known; no tab may follow
before it. -/
def takeEmptyLines (indent : Option Nat) : Nat → Cursor → Option (List Char × Nat × Cursor)
  | 0, _ => none
  | fuel + 1, c =>
    let spaces := (c.rest.takeWhile (· == ' ')).length
    -- no more than the indentation is taken, what is deeper belongs to the line
    let c := c.advance (match indent with
      | none => spaces
      | some n => min spaces (n - c.column))
    if indent.all (fun n => decide (c.column < n)) && c.sees '\t' then none
    else if !c.rest.isEmpty && atBreak c.rest then
      (takeEmptyLines indent fuel c.takeBreak.2).map fun (breaks, depth, last) =>
        (c.takeBreak.1 ++ breaks, max c.column depth, last)
    else some ([], c.column, c)

/-- Breaks and blanks before a line of the scalar. -/
structure Seam where
  /-- The break of the line before. -/
  first : List Char
  /-- The breaks of the empty lines between. -/
  others : List Char
  /-- Does the line before start with a blank? -/
  afterBlank : Bool

/-- What stands before a line. In folded scalars a break between two lines that do not start with
blanks is folded. -/
def Seam.text (literal : Bool) (s : Seam) (blank : Bool) : List Char :=
  if !literal && s.first.head? == some '\n' && !s.afterBlank && !blank then
    if s.others.isEmpty then [' '] else s.others
  else s.first ++ s.others

/-- The lines at the column `indent`, the seam after the last one, and the position there. -/
def takeLines (literal : Bool) (indent : Nat) : Nat → Seam → Cursor →
    Option (List Char × Seam × Cursor)
  | 0, _, _ => none
  | fuel + 1, seam, c =>
    if c.column != indent || c.rest.isEmpty then some ([], seam, c)
    else do
      let blank := c.rest.head?.any isBlank
      let line := c.rest.takeWhile fun x => !isBreak x
      let c := c.advance line.length
      let (others, _, after) ← takeEmptyLines (some indent) (c.left + 1) c.takeBreak.2
      let (more, last, stop) ← takeLines literal indent fuel ⟨c.takeBreak.1, others, blank⟩ after
      return (seam.text literal blank ++ line ++ more, last, stop)

/-- The block scalar after its first sign, and the position after it. It lies to the right of
`parent`, the column of the block around it. -/
def takeBlock (literal : Bool) (parent : Option Nat) (c : Cursor) :
    Option (List Char × Cursor) := do
  let (chomping, digit, c) ← takeHeader c
  let c ← c.finishLine?
  let given := digit.map fun n => parent.getD 0 + n
  let (breaks, depth, c) ← takeEmptyLines given (c.left + 1) c
  let indent := given.getD (max depth (max 1 (parent.elim 0 (· + 1))))
  let (text, seam, c) ← takeLines literal indent (c.left + 1) ⟨[], breaks, false⟩ c
  let tail := match chomping with
    | .strip => []
    | .clip => seam.first
    | .keep => seam.first ++ seam.others
  return (text ++ tail, c)

end LoadPlan.Yaml
