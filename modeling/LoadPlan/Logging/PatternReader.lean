import LoadPlan.Logging.Pattern
import LoadPlan.Text.Alphanumeric
import LoadPlan.Text.Blank
import LoadPlan.Text.Hex
/-!
# Reading patterns

The text of a pattern inside a filter holds neither commas and equals signs nor closing braces.
So an opening brace, which would start a count or a name, starts nothing that could end, except
inside brackets, where it is a letter.
-/

namespace LoadPlan.Logging

/-- What is left to read of a pattern. -/
structure PatternRest where
  text : List Char
  /-- Are white space and comments left out? -/
  verbose : Bool
  /-- The names of the groups so far. -/
  names : List (List Char)

/-- Reading a part of a pattern. -/
abbrev PatternReader (α : Type) : Type := StateT PatternRest Option α

namespace PatternReader

/-- The text after white space and comments. A comment goes from a number sign to the end of its
line. -/
def withoutFiller (inComment : Bool) : List Char → List Char
  | [] => []
  | c :: rest =>
    if inComment then withoutFiller (c != '\n') rest
    else if Text.isBlank c then withoutFiller false rest
    else if c == '#' then withoutFiller true rest
    else c :: rest

/-- What is left to read. -/
def rest : PatternReader (List Char) := return (← get).text

/-- Leave characters out. -/
def skip (n : Nat) : PatternReader Unit := modify fun r => { r with text := r.text.drop n }

/-- Leave white space and comments out, if they mean nothing. -/
def skipFiller : PatternReader Unit :=
  modify fun r => if r.verbose then { r with text := withoutFiller false r.text } else r

/-- Leave a character out, and the filler after it. -/
def skipOver : PatternReader Unit := do
  skip 1
  skipFiller

/-- Does this character come next? -/
def sees (c : Char) : PatternReader Bool := return (← rest).head? == some c

/-! ## Letters -/

/-- The number of some hexadecimal digits. -/
def hexDigits : Nat → Nat → PatternReader Nat
  | 0, value => return value
  | n + 1, value => do
    let digit ← ((← rest).head?.bind Text.hexValue? : Option Nat)
    skipOver
    hexDigits n (16 * value + digit)

/-- How many hexadecimal digits follow a letter after a backslash. -/
def digitCount? : Char → Option Nat
  | 'x' => some 2
  | 'u' => some 4
  | 'U' => some 8
  | _ => none

/-- What one letter after a backslash stands for. -/
def letterEscape? : Char → Option Pattern
  | 'a' => some (.letter ⟨'\x07', false⟩)
  | 'f' => some (.letter ⟨'\x0c', false⟩)
  | 't' => some (.letter ⟨'\t', false⟩)
  | 'n' => some (.letter ⟨'\n', false⟩)
  | 'r' => some (.letter ⟨'\r', false⟩)
  | 'v' => some (.letter ⟨'\x0b', false⟩)
  | 'd' | 's' | 'w' => some (.chars (.shorthand false))
  | 'D' | 'S' | 'W' => some (.chars (.shorthand true))
  | 'A' | 'z' => some (.edge false)
  | 'b' | 'B' | '<' | '>' => some (.edge true)
  | c => if c.toNat < 0x80 && !c.isAlphanum then some (.letter ⟨c, false⟩) else none

/-- What a backslash and the characters after it stand for. -/
def escape : PatternReader Pattern := do
  skip 1
  match (← rest).head? with
  | none => failure
  | some c =>
    match digitCount? c with
    | some n => do
      skipOver
      let c ← (Text.charOf? (← hexDigits n 0) : Option Char)
      return .letter ⟨c, n == 2⟩
    | none => do
      let p ← (letterEscape? c : Option Pattern)
      skip 1
      return p

/-! ## Sets -/

/-- The names of sets. -/
def setNames : List (List Char) :=
  ["alnum", "alpha", "ascii", "blank", "cntrl", "digit", "graph", "lower", "print", "punct",
    "space", "upper", "word", "xdigit"].map String.toList

/-- A set with a name, after its bracket and colon: is it negated, and how many characters does it
have? -/
def namedSet? (cs : List Char) : Option (Bool × Nat) :=
  let negated := cs.head? == some '^'
  let body := if negated then cs.drop 1 else cs
  let name := body.takeWhile (· != ':')
  if setNames.contains name && (body.drop name.length).take 2 == [':', ']'] then
    some (negated, cs.length - body.length + name.length + 2)
  else none

/-- What is read as one member of a set. -/
def memberOf? : Pattern → Option CharClass
  | .letter l => some (.letter l)
  | .chars c => some c
  | _ => none

/-- A member of a set that is no range. -/
def member : PatternReader CharClass := do
  match ← rest with
  | '\\' :: _ => do
    let p ← escape
    (memberOf? p : Option CharClass)
  | c :: _ => do
    skip 1
    return .letter ⟨c, false⟩
  | [] => failure

/-- The next character that means something after a hyphen. A comment sign is looked past, but
the comment is not. -/
def afterHyphen : PatternReader (Option Char) := do
  let cs := (← rest).drop 1
  if (← get).verbose then
    match cs.dropWhile Text.isBlank with
    | '#' :: more => return (more.dropWhile Text.isBlank).head?
    | more => return more.head?
  else return cs.head?

/-- A range, or one member of a set. A hyphen before the closing bracket or another hyphen is no
sign of a range. -/
def memberOrRange : PatternReader CharClass := do
  let first ← member
  skipFiller
  let next ← afterHyphen
  if (← sees '-') && next != some ']' && next != some '-' then
    skipOver
    match first, ← member with
    | .letter a, .letter b => if a.char ≤ b.char then return .range a b else failure
    | _, _ => failure
  else return first

/-- Hyphens at the start of a set are letters. -/
def hyphens : Nat → PatternReader (List CharClass)
  | 0 => failure
  | fuel + 1 => do
    if ← sees '-' then
      skipOver
      return .letter ⟨'-', false⟩ :: (← hyphens fuel)
    else return []

/-- The union of some members. -/
def unionOf : List CharClass → CharClass
  | [] => .empty
  | [c] => c
  | cs => .union cs

/-- A set as the right operand of an operator, if there is one. -/
def operand (left : Option CharClass) (right : CharClass) : CharClass :=
  match left with
  | none => right
  | some c => .combined c right

/-- Do two equal characters form an operator between sets? -/
def isOperator (c : Char) : Bool := c == '&' || c == '-' || c == '~'

mutual

/-- A set in brackets. A closing bracket right at the start is a letter. -/
def brackets : Nat → PatternReader CharClass
  | 0 => failure
  | fuel + 1 => do
    skipOver
    let negated ← sees '^'
    if negated then skipOver
    let start ← hyphens ((← rest).length + 1)
    if start.isEmpty && (← sees ']') then
      skipOver
      return .brackets negated (← members fuel [.letter ⟨']', false⟩] none)
    else return .brackets negated (← members fuel start none)

/-- The members up to the closing bracket; `left` is what stands before an operator. -/
def members : Nat → List CharClass → Option CharClass → PatternReader CharClass
  | 0, _, _ => failure
  | fuel + 1, items, left => do
    skipFiller
    let whole := operand left (unionOf items)
    match ← rest with
    | [] => failure
    | ']' :: _ => do
      skip 1
      return whole
    | '[' :: more => do
      match more with
      | ':' :: cs =>
        match namedSet? cs with
        | some (negated, n) => do
          skip (2 + n)
          members fuel (items ++ [.named negated]) left
        | none => do
          let c ← brackets fuel
          members fuel (items ++ [c]) left
      | _ => do
        let c ← brackets fuel
        members fuel (items ++ [c]) left
    | c :: d :: _ => do
      if isOperator c && c == d then
        skip 2
        members fuel [] (some whole)
      else
        let item ← memberOrRange
        members fuel (items ++ [item]) left
    | _ => failure

end

/-! ## Groups -/

/-- The letters of options. -/
def optionLetters : List Char := ['i', 'm', 's', 'U', 'u', 'R', 'x', '-']

/-- Do some letters name options? None is there twice, and something follows the minus sign. -/
def areOptions (cs : List Char) : Bool :=
  cs.all optionLetters.contains && decide cs.Nodup && cs.getLast? != some '-'

/-- What some letters say about the option of one of them: on before the minus sign, off after
it. -/
def setting (cs : List Char) (c : Char) : Option Bool :=
  if cs.contains c then some !((cs.takeWhile (· != c)).contains '-') else none

/-- The options that some letters name. -/
def optionsOf (cs : List Char) : Options := ⟨setting cs 'i', setting cs 'u', setting cs 'x'⟩

/-- May the name of a group hold the character, at its start or further on? -/
def isNameChar (first : Bool) (c : Char) : Bool :=
  c == '_' || if first then Text.isAlphabetic c
    else c == '.' || c == '[' || c == ']' || Text.isAlphanumeric c

/-- Is the text the name of a group? -/
def isName : List Char → Bool
  | [] => false
  | c :: rest => isNameChar true c && rest.all (isNameChar false)

/-- The name of a group and the bracket that closes it. No other group has the name. -/
def groupName : PatternReader Unit := do
  let cs ← rest
  let name := cs.takeWhile (· != '>')
  if !isName name || (← get).names.contains name || !(cs.drop name.length).head?.isSome then failure
  modify fun r => { r with text := r.text.drop (name.length + 1), names := name :: r.names }

/-- What stands at the start of a group after its parenthesis: its options, and whether it is only
the options. -/
def groupStart : PatternReader (Options × Bool) := do
  skipFiller
  match ← rest with
  | '?' :: 'P' :: '<' :: _ => do
    skip 3
    groupName
    return (.none, false)
  | '?' :: '<' :: _ => do
    skip 2
    groupName
    return (.none, false)
  | '?' :: cs => do
    let letters := cs.takeWhile fun c => c != ':' && c != ')'
    if !areOptions letters then failure
    skip (letters.length + 2)
    match cs.drop letters.length with
    | ':' :: _ => return (optionsOf letters, false)
    | ')' :: _ => if letters.isEmpty then failure else return (optionsOf letters, true)
    | _ => failure
  | _ => return (.none, false)

/-- Set whether white space and comments are left out. -/
def setVerbose (verbose : Bool) : PatternReader Unit := modify fun r => { r with verbose }

/-! ## Patterns -/

/-- Patterns in a row. -/
def rowOf : List Pattern → Pattern
  | [] => .empty
  | [p] => p
  | ps => .row ps

/-- One of some patterns. -/
def eitherOf : List Pattern → Pattern
  | [p] => p
  | ps => .either ps

/-- The last of some patterns, repeated. Options cannot be repeated. -/
def repeatLast? (items : List Pattern) : Option (List Pattern) :=
  match items.getLast? with
  | none | some .empty | some (.options _) => none
  | some p => some (items.dropLast ++ [.repeated p])

/-- The pattern up to a closing parenthesis or the end; `branches` and `items` are what has been
read of it. -/
def body : Nat → List Pattern → List Pattern → PatternReader Pattern
  | 0, _, _ => failure
  | fuel + 1, branches, items => do
    skipFiller
    match ← rest with
    | [] | ')' :: _ => return eitherOf (branches ++ [rowOf items])
    | '|' :: _ => do
      skip 1
      body fuel (branches ++ [rowOf items]) []
    | '(' :: _ => do
      skip 1
      let (o, alone) ← groupStart
      let verbose := (← get).verbose
      setVerbose (o.verbose.getD verbose)
      if alone then body fuel branches (items ++ [.options o])
      else
        let p ← body fuel [] []
        if !(← sees ')') then failure
        skip 1
        setVerbose verbose
        body fuel branches (items ++ [.group o p])
    | '[' :: cs => do
      let c ← brackets (2 * cs.length + 2)
      body fuel branches (items ++ [.chars c])
    | '?' :: cs | '*' :: cs | '+' :: cs => do
      -- a question mark right after the sign belongs to it
      skip (if cs.head? == some '?' then 2 else 1)
      let items ← (repeatLast? items : Option (List Pattern))
      body fuel branches items
    | '{' :: _ => failure
    | '\\' :: _ => do
      let p ← escape
      body fuel branches (items ++ [p])
    | c :: _ => do
      skip 1
      let p := match c with
        | '.' => .dot
        | '^' | '$' => .edge false
        | c => .letter ⟨c, false⟩
      body fuel branches (items ++ [p])

end PatternReader

/-- The pattern that a text is. -/
def Pattern.read? (cs : List Char) : Option Pattern :=
  match (PatternReader.body (cs.length + 1) [] []).run ⟨cs, false, []⟩ with
  | some (p, r) => if r.text.isEmpty then some p else none
  | none => none

end LoadPlan.Logging
