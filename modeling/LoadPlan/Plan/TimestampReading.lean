import LoadPlan.Plan.Timestamp
import LoadPlan.Text.Blank
/-!
# Reading points in time

The text of a point in time is a date, a `T` or a blank, a time of day and the offset from
universal time. Blanks may stand before every number and every mark.
-/

namespace LoadPlan.Timestamp

/-- The text without blanks at its start. -/
def skipBlanks (cs : List Char) : List Char := cs.dropWhile Text.isBlank

/-- The first digits, at most `width`, as a number. At least one. -/
def takeNumber (width : Nat) (cs : List Char) : Option (Nat × List Char) :=
  match (cs.take width).takeWhile Char.isDigit with
  | [] => none
  | digits => some (Nat.ofDigitChars 10 digits 0, cs.drop digits.length)

/-- A number of at most two digits after blanks. -/
def takePair (cs : List Char) : Option (Nat × List Char) := takeNumber 2 (skipBlanks cs)

/-- A mark after blanks. -/
def takeMark (mark : Char) (cs : List Char) : Option (List Char) :=
  match skipBlanks cs with
  | c :: rest => if c = mark then some rest else none
  | [] => none

/-- A year: at most four digits, or a sign and any number of digits. -/
def takeYear (cs : List Char) : Option (Int × List Char) :=
  match skipBlanks cs with
  | '-' :: rest => (takeNumber rest.length rest).map fun (n, rest) => (-(n : Int), rest)
  | '+' :: rest => (takeNumber rest.length rest).map fun (n, rest) => ((n : Int), rest)
  | rest => (takeNumber 4 rest).map fun (n, rest) => ((n : Int), rest)

/-- Nanoseconds after the point. Digits beyond the ninth are dropped. -/
def takeFraction : List Char → Option (Nat × List Char)
  | '.' :: rest => do
    let digits := (rest.take 9).takeWhile Char.isDigit
    let (n, _) ← takeNumber 9 rest
    return (n * Nat.pow 10 (9 - digits.length), rest.dropWhile Char.isDigit)
  | cs => some (0, cs)

/-- Is the character a colon or a blank? -/
def isOffsetGap (c : Char) : Bool := c == ':' || Text.isBlank c

/-- Exactly two digits. -/
def takeTwo : List Char → Option (Nat × List Char)
  | a :: b :: rest =>
    if a.isDigit && b.isDigit then some ((a.toNat - 48) * 10 + (b.toNat - 48), rest) else none
  | _ => none

/-- Seconds between a local time and universal time. -/
def takeOffset (cs : List Char) : Option (Int × List Char) :=
  match cs with
  | [] => none
  | c :: rest =>
    if c == 'Z' || c == 'z' then some (0, rest)
    else if (cs.take 3).map Char.toLower == ['u', 't', 'c'] then some (0, cs.drop 3)
    else if c == '+' || c == '-' || c == '−' then do
      let (hours, rest) ← takeTwo rest
      let (minutes, rest) ← takeTwo (rest.dropWhile isOffsetGap)
      if minutes < 60 && hours < 24 then
        let seconds : Int := 3600 * hours + 60 * minutes
        return (if c == '+' then seconds else -seconds, rest)
      else none
    else none

/-- Does a year lie in the range of the calendar? -/
def isYear (year : Int) : Bool := -262143 ≤ year && year ≤ 262142

/-- The point in time at a local date and time with an offset. -/
def ofLocal (year : Int) (month day hour minute second nanosecond : Nat) (offset : Int) :
    Option Timestamp :=
  if isYear year && 1 ≤ month && month ≤ 12 && 1 ≤ day && day ≤ daysInMonth year month &&
      hour < 24 && minute < 60 && second ≤ 60 then
    let leap := second / 60
    let moment : Int := 3600 * hour + 60 * minute + (second - leap : Nat) - offset
    let number := dayNumber year month day + moment / 86400
    if isYear (date number).1 then
      some ⟨number - epoch, (moment % 86400).toNat, nanosecond + 1000000000 * leap⟩
    else none
  else none

/-- The point in time that a text names. -/
def read (s : String) : Option Timestamp := do
  let (year, cs) ← takeYear s.toList
  let (month, cs) ← takePair (← takeMark '-' cs)
  let (day, cs) ← takePair (← takeMark '-' cs)
  let cs ← match cs with
    | c :: rest => if c == 'T' || c == 't' || c == ' ' then some rest else none
    | [] => none
  let (hour, cs) ← takePair cs
  let (minute, cs) ← takePair (← takeMark ':' cs)
  let (second, cs) ← takePair (← takeMark ':' cs)
  let (nanosecond, cs) ← takeFraction cs
  let (offset, cs) ← takeOffset (skipBlanks cs)
  if (skipBlanks cs).isEmpty then ofLocal year month day hour minute second nanosecond offset
  else none

end LoadPlan.Timestamp
