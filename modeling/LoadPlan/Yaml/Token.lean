/-!
# YAML tokens

What the text of a document is made of once its indentation has become brackets.
-/

namespace LoadPlan.Yaml

/-- How a scalar is written. -/
inductive Style where
  | plain
  | singleQuoted
  | doubleQuoted
  /-- An indented block whose lines are kept. -/
  | literal
  /-- An indented block whose lines are folded. -/
  | folded
deriving DecidableEq, Repr

/-- A tag, or a part of one. It is bytes, since an escape in it may name any byte. -/
abbrev Tag : Type := List UInt8

/-- The bytes of some characters. -/
def Tag.ofChars (cs : List Char) : Tag := (String.ofList cs).toUTF8.toList

/-- The text that a tag is, unless its bytes are none. -/
def Tag.text? (t : Tag) : Option String := String.fromUTF8? ⟨t.toArray⟩

/-- The parts of a text. -/
inductive Token where
  | version (major minor : Nat)
  /-- A shorthand for the start of tags. -/
  | handle (name : List Char) (meaning : Tag)
  | documentStart
  | documentEnd
  | blockList
  | blockMap
  | blockEnd
  | flowList
  | flowListEnd
  | flowMap
  | flowMapEnd
  /-- The mark of an item in a block list. -/
  | item
  | comma
  | key
  | value
  | alias (name : List Char)
  | anchor (name : List Char)
  | tag (handle : List Char) (rest : Tag)
  | scalar (style : Style) (text : List Char)
deriving DecidableEq, Repr

end LoadPlan.Yaml
