import LoadPlan.Config
import LoadPlan.Decimal.Reading
import LoadPlan.Logging.PatternReader
import LoadPlan.Text.Bytes
import LoadPlan.Text.Split
/-!
# Log filters

A filter is a list of directives between commas. A directive is a level, the name of a target, or
a target and a level. A target may be narrowed to a span in square brackets, and the span to a
field in braces, which may have a value: a number or a pattern. Setting up logging fails for a
filter that is none, and the second time.
-/

namespace LoadPlan.Logging

/-- The names of the levels. The number of a level is its place. -/
def levelNames : List (List Char) :=
  ["off".toList, "error".toList, "warn".toList, "info".toList, "debug".toList, "trace".toList]

/-- The whole number that a text names, which may have a plus sign. -/
def levelNumber? : List Char → Option Nat
  | '+' :: digits => Decimal.takeNat digits
  | digits => Decimal.takeNat digits

/-- Is the text the name of a level in any case, or its number? -/
def isLevel (cs : List Char) : Bool :=
  levelNames.contains (cs.map Char.toLower) ||
    (levelNumber? cs).any fun n => decide (n < levelNames.length)

/-- May a target start with this character? -/
def startsTarget (c : Char) : Bool :=
  c == '-' || c == ':' || c == '_' || Text.isAlphanumeric c

/-- Is this the end of a directive after its target, or a level? Without a level all events are
let through. A directive with a level has no white space around it. -/
def isEnd (padded : Bool) : List Char → Bool
  | [] => true
  | '=' :: level => !padded && (level.isEmpty || isLevel level)
  | _ => false

/-- Is the text a value of a field? -/
def isValue (cs : List Char) : Bool :=
  (Decimal.readChars cs).isSome || (Pattern.read? cs).any (·.isUsable)

/-- Is the text a field, maybe with a value after an equals sign? What follows a second equals sign
means nothing. -/
def isField (cs : List Char) : Bool :=
  match Text.splitOn '=' cs with
  | _ :: value :: _ => isValue value
  | _ => true

/-- What stands between two bytes of the text. -/
def between? (start stop : Nat) (cs : List Char) : Option (List Char) :=
  (Text.dropBytes? start cs).bind (Text.takeBytes? (stop - start))

/-- Is this the rest of a directive after the opening bracket of a span? A span with braces has
something in them. The place of the field is counted without the white space before the directive,
but the field is taken from the directive with it. -/
def isSpan (directive cs : List Char) : Bool :=
  let body := Text.trimBlanks directive
  let padded := body != directive
  match cs.dropWhile fun c => c != ']' && c != '{' with
  | ']' :: rest => isEnd padded rest
  | '{' :: rest =>
    let place := fun cs => Text.byteLength body - Text.byteLength cs
    match rest.dropWhile (· != '}') with
    | '}' :: ']' :: more =>
      let field := between? (place rest) (place ('}' :: ']' :: more)) directive
      rest.head? != some '}' && field.any isField && isEnd padded more
    | _ => false
  | _ => false

/-- Is the text a directive? -/
def isDirective (cs : List Char) : Bool :=
  let body := Text.trimBlanks cs
  match body with
  | [] => false
  | '[' :: rest => isSpan cs rest
  | c :: _ =>
    startsTarget c &&
      match body.dropWhile fun c => c != '=' && c != '[' with
      | '[' :: rest => isSpan cs rest
      | rest => isEnd (body != cs) rest

/-- Is the text a filter? Empty directives mean nothing. -/
def isFilter (level : String) : Bool :=
  (Text.splitOn ',' level.toList).all fun d => d.isEmpty || isDirective d

/-- Refuse a level that is no filter. -/
def checkLevel (c : LoggingConfig) : Except CompileError Unit :=
  if isFilter c.level then .ok () else .error (.badLogLevel c.level)

/-- Set up logging, if it is not set up yet. Once set up it stays as it is. -/
def install (current : Option LoggingConfig) (c : LoggingConfig) :
    Except CompileError LoggingConfig := do
  checkLevel c
  match current with
  | none => return c
  | some _ => throw .loggingInUse

end LoadPlan.Logging
