import LoadPlan.Files.Path
/-!
# File trees

The files and directories below the root, and what creating directories, writing and reading a file
do to them. A relative path is followed from the working directory, and two dots lead up, from the
root to itself. A call that fails partway keeps the directories it has made.

Calls know neither links nor permissions.
-/

namespace LoadPlan

/-- What is found under a path. -/
inductive Entry where
  | directory
  | file (content : ByteArray)

/-- Entries by the names that lead to them from the root. The working directory and the directories
that it lies in are no entries: they are always there. -/
structure FileTree where
  workdir : List String
  entries : List (List String × Entry)

namespace FileTree

/-- Nothing but a working directory. -/
def fresh (workdir : List String) : FileTree := ⟨workdir, []⟩

/-- Nothing at all, seen from the root. -/
def empty : FileTree := fresh []

instance : Inhabited FileTree := ⟨empty⟩

/-- The entry that names lead to. -/
def find? (tree : FileTree) (names : List String) : Option Entry :=
  if names.isPrefixOf tree.workdir then some .directory
  else (tree.entries.find? fun e => e.1 = names).map (·.2)

/-- Put an entry under names, in place of the one there. -/
def set (tree : FileTree) (names : List String) (entry : Entry) : FileTree :=
  { tree with entries := (names, entry) :: tree.entries.filter fun e => e.1 ≠ names }

/-- Is there a directory under the names? -/
def isDirectory (tree : FileTree) (names : List String) : Bool :=
  match tree.find? names with
  | some .directory => true
  | _ => false

/-- Can an entry have this name? A name is a text of at most 255 bytes without NUL. -/
def isName (s : String) : Bool := s ≠ "" && s.utf8ByteSize ≤ 255 && !s.toList.contains '\x00'

/-- Can a call take this path at all? -/
def isPath (path : String) : Bool := path.utf8ByteSize < 4096 && !path.toList.contains '\x00'

/-- The directory that steps lead to from a directory. -/
def walk (tree : FileTree) (here : List String) : List Path.Component → Option (List String)
  | [] => some here
  | .root :: rest => walk tree [] rest
  | .current :: rest => walk tree here rest
  | .parent :: rest => walk tree here.dropLast rest
  | .name s :: rest => if tree.isDirectory (here ++ [s]) then walk tree (here ++ [s]) rest else none

/-- Make the missing directories on the way. Says whether the whole way is there now. -/
def makeWay (tree : FileTree) (here : List String) : List Path.Component → FileTree × Bool
  | [] => (tree, true)
  | .root :: rest => makeWay tree [] rest
  | .current :: rest => makeWay tree here rest
  | .parent :: rest => makeWay tree here.dropLast rest
  | .name s :: rest =>
    match tree.find? (here ++ [s]) with
    | some .directory => makeWay tree (here ++ [s]) rest
    | some (.file _) => (tree, false)
    | none =>
      if isName s then makeWay (tree.set (here ++ [s]) .directory) (here ++ [s]) rest
      else (tree, false)

/-- The names of the file that a path leads to, if it can lead to one: it ends in a name, and
the way to it is there. -/
def locate? (tree : FileTree) (path : String) : Option (List String) :=
  if !isPath path then none
  else
    let parts := Path.parts path
    match parts.getLast?.bind Path.step? with
    | some (.name s) =>
      (tree.walk (Path.start tree.workdir path) (parts.dropLast.filterMap Path.step?)).map
        fun here => here ++ [s]
    | _ => none

/-- Create a file, or replace its content. Fails on a directory, and where the way is missing. -/
def write (tree : FileTree) (path : String) (content : ByteArray) : FileTree × Bool :=
  match tree.locate? path with
  | none => (tree, false)
  | some names =>
    match tree.find? names with
    | some .directory => (tree, false)
    -- the name was good when the file was made
    | some (.file _) => (tree.set names (.file content), true)
    | none =>
      if isName (names.getLast?.getD "") then (tree.set names (.file content), true)
      else (tree, false)

/-- Write a file after making the directories that its path goes through. -/
def save (tree : FileTree) (path : String) (content : ByteArray) : FileTree × Bool :=
  let way := Path.directory path
  if isPath way then
    match tree.makeWay tree.workdir (Path.components way) with
    | (made, true) => made.write path content
    | (made, false) => (made, false)
  else (tree, false)

/-- The content of a file. -/
def read? (tree : FileTree) (path : String) : Option ByteArray :=
  match (tree.locate? path).bind tree.find? with
  | some (.file content) => some content
  | _ => none

/-- The content of a file that is a text. -/
def readText? (tree : FileTree) (path : String) : Option String :=
  (tree.read? path).bind fun bytes => String.fromUTF8? bytes

end FileTree

end LoadPlan
