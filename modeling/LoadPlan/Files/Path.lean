import LoadPlan.Text.Split
/-!
# Paths

A path is a text whose parts are separated by slashes. Empty parts and inner dots mean nothing:
`components` leaves them out. Paths are joined and answered as they are written.
-/

namespace LoadPlan.Path

/-- One step of a path. -/
inductive Component where
  /-- The start of an absolute path. -/
  | root
  /-- A dot at the start of a relative path. -/
  | current
  /-- Two dots. -/
  | parent
  | name (s : String)
deriving DecidableEq

/-- The parts between slashes. -/
def parts (path : String) : List String := (Text.splitOn '/' path.toList).map String.ofList

/-- A part that is a step of its own. -/
def step? (part : String) : Option Component :=
  if part = "" || part = "." then none
  else if part = ".." then some .parent
  else some (.name part)

/-- Does the path start at the root? -/
def isAbsolute (path : String) : Bool := path.toList.head? == some '/'

/-- The steps of a path. -/
def components (path : String) : List Component :=
  let steps := (parts path).filterMap step?
  if isAbsolute path then .root :: steps
  else if (parts path).head? = some "." then .current :: steps
  else steps

/-- Is the path relative, not empty, and made of names alone? Such a path stays inside the
directory it is joined to. -/
def isContained (path : String) : Bool :=
  path ≠ "" && (components path).all fun
    | .name _ => true
    | _ => false

/-- The path of a file in a directory. -/
def join (dir file : String) : String :=
  if isAbsolute file || dir = "" then file
  else if dir.toList.getLast? = some '/' then dir ++ file
  else dir ++ "/" ++ file

/-- The parts of a path before its last step, down to the last one that is a step. -/
def partsBefore (path : String) : List String :=
  let idle := fun part => (step? part).isNone
  ((((parts path).reverse.dropWhile idle).drop 1).dropWhile idle).reverse

/-- The path before its last step, without separators at its end. -/
def directory (path : String) : String :=
  -- before the only step of an absolute path there is the root
  if isAbsolute path ∧ partsBefore path = [] then "/"
  else String.ofList (Text.joinWith '/' ((partsBefore path).map String.toList))

/-- The names that a path is followed from: an absolute one starts at the root, another one in the
working directory. -/
def start (workdir : List String) (path : String) : List String :=
  if isAbsolute path then [] else workdir

/-- The last name, if the path ends in one. -/
def fileName? (path : String) : Option String :=
  match (components path).getLast? with
  | some (.name s) => some s
  | _ => none

/-- What follows the last dot of the last name, unless the name starts with that dot. -/
def extension? (path : String) : Option String := do
  let name ← fileName? path
  let parts := Text.splitOn '.' name.toList
  let stem := Text.joinWith '.' parts.dropLast
  if stem.isEmpty then none else parts.getLast?.map String.ofList

end LoadPlan.Path
