/-!
# Patterns

The values of fields are matched with patterns: regular expressions over whole characters.
Options change how the rest of a group is matched. Without case, whole characters cannot be
told apart, nor have they shorthands or edges of words; for single bytes, all that is not ASCII
is out of reach.

A pattern is usable if it does not nest too deep and everything in it can be matched in its mode.
-/

namespace LoadPlan.Logging

/-- A character that stands for itself. -/
structure Letter where
  char : Char
  /-- Is it written as a byte, with two hexadecimal digits? -/
  isByte : Bool

/-- A set of characters. -/
inductive CharClass where
  | empty
  | letter (l : Letter)
  | range (first last : Letter)
  /-- A set with a name between colons. -/
  | named (negated : Bool)
  /-- Digits, white space or the characters of words. -/
  | shorthand (negated : Bool)
  | brackets (negated : Bool) (inner : CharClass)
  | union (items : List CharClass)
  /-- What is in both sets, in the first one only, or in one of them only. -/
  | combined (left right : CharClass)

/-- What options say. What is none stays as it is. -/
structure Options where
  /-- Is case ignored? -/
  caseless : Option Bool
  /-- Are whole characters matched, or single bytes? -/
  whole : Option Bool
  /-- Are white space and comments left out of the pattern? -/
  verbose : Option Bool

/-- No options. -/
def Options.none : Options := ⟨.none, .none, .none⟩

/-- A pattern. -/
inductive Pattern where
  | empty
  /-- Options for the rest of the group. -/
  | options (o : Options)
  | letter (l : Letter)
  /-- Any character, but no line break. -/
  | dot
  /-- The start or end of a text, a line or a word. -/
  | edge (ofWord : Bool)
  | chars (c : CharClass)
  | repeated (p : Pattern)
  | group (o : Options) (p : Pattern)
  | either (branches : List Pattern)
  | row (items : List Pattern)

/-! ## Nesting -/

namespace CharClass

mutual

/-- How deep sets lie in each other. -/
def depth : CharClass → Nat
  | empty | letter _ | range .. | named _ | shorthand _ => 0
  | brackets _ inner => 1 + depth inner
  | union items => 1 + depthOfAll items
  | combined left right => 1 + max (depth left) (depth right)

/-- The greatest depth of some sets. -/
def depthOfAll : List CharClass → Nat
  | [] => 0
  | c :: rest => max (depth c) (depthOfAll rest)

end

end CharClass

namespace Pattern

mutual

/-- How deep patterns and sets lie in each other. -/
def depth : Pattern → Nat
  | empty | options _ | letter _ | dot | edge _ => 0
  | chars c => c.depth
  | repeated p => 1 + depth p
  | group _ p => 1 + depth p
  | either ps => 1 + depthOfAll ps
  | row ps => 1 + depthOfAll ps

/-- The greatest depth of some patterns. -/
def depthOfAll : List Pattern → Nat
  | [] => 0
  | p :: rest => max (depth p) (depthOfAll rest)

end

end Pattern

/-! ## Modes -/

/-- How a part of a pattern is matched. -/
structure Mode where
  caseless : Bool
  whole : Bool

/-- The mode with options. -/
def Mode.set (m : Mode) (o : Options) : Mode :=
  ⟨o.caseless.getD m.caseless, o.whole.getD m.whole⟩

/-- Can the letter be a member of a set? -/
def Letter.fitsSet (m : Mode) (l : Letter) : Bool :=
  if m.whole then !m.caseless else decide (l.char.toNat < 0x80)

/-- Can the letter be matched? Characters beyond ASCII can be matched as bytes, unless they are
written as one. -/
def Letter.fits (m : Mode) (l : Letter) : Bool :=
  if m.whole then !m.caseless else !l.isByte || decide (l.char.toNat < 0x80)

namespace CharClass

mutual

/-- Can the set be matched? A negated one reaches beyond ASCII. -/
def fits (m : Mode) : CharClass → Bool
  | empty => true
  | letter l => l.fitsSet m
  | range first last => first.fitsSet m && last.fitsSet m
  | named negated => if m.whole then !m.caseless else !negated
  | shorthand negated => !m.whole && !negated
  | brackets negated inner => fits m inner && (m.whole || !negated)
  | union items => allFit m items
  | combined left right => fits m left && fits m right

/-- Can all of some sets be matched? -/
def allFit (m : Mode) : List CharClass → Bool
  | [] => true
  | c :: rest => fits m c && allFit m rest

end

end CharClass

namespace Pattern

mutual

/-- The mode after a pattern, none if something in it cannot be matched. -/
def modeAfter? (m : Mode) : Pattern → Option Mode
  | empty => some m
  | options o => some (m.set o)
  | letter l => if l.fits m then some m else none
  | dot => if m.whole then some m else none
  | edge ofWord => if ofWord && m.whole then none else some m
  | chars c => if c.fits m then some m else none
  | repeated p => modeAfter? m p
  | group o p => (modeAfter? (m.set o) p).map fun _ => m
  | either ps => modeAfterAll? m ps
  | row ps => modeAfterAll? m ps

/-- The mode after some patterns. -/
def modeAfterAll? (m : Mode) : List Pattern → Option Mode
  | [] => some m
  | p :: rest => (modeAfter? m p).bind fun m => modeAfterAll? m rest

end

/-- How deep a pattern may nest. -/
def maxDepth : Nat := 250

/-- Can the pattern be used? -/
def isUsable (p : Pattern) : Bool :=
  decide (p.depth ≤ maxDepth) && (p.modeAfter? ⟨false, true⟩).isSome

end Pattern

end LoadPlan.Logging
