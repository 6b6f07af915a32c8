/-! # Depth of nesting

How deep a text is nested can be told part by part: a sequence of several parts
is one level deeper than the deepest of them, and so is a choice between several
sequences.
-/

namespace PocketTools.Journal

/-- What is known of an open level: the number of parts in its last sequence, the
depth of the last part and of the deepest one before, and the depth of the
deepest sequence before, if there is one. -/
structure Nesting where
  parts : Nat := 0
  last : Nat := 0
  deepest : Nat := 0
  earlier : Option Nat := none
  deriving DecidableEq, Repr

namespace Nesting

/-- The depth of the last sequence. -/
def sequenceDepth (nesting : Nesting) : Nat :=
  if nesting.parts ≤ 1 then nesting.last else max nesting.last nesting.deepest + 1

/-- The depth of the level. -/
def depth (nesting : Nesting) : Nat :=
  match nesting.earlier with
  | none => nesting.sequenceDepth
  | some earlier => max earlier nesting.sequenceDepth + 1

/-- The level with one more part, of some depth. -/
def add (nesting : Nesting) (depth : Nat) : Nesting :=
  { nesting with
    parts := nesting.parts + 1
    last := depth
    deepest := max nesting.deepest nesting.last }

/-- The level with its last part wrapped once more. -/
def wrap (nesting : Nesting) : Nesting :=
  { nesting with last := nesting.last + 1 }

/-- The level with a new sequence to choose from. -/
def choose (nesting : Nesting) : Nesting :=
  { earlier := some (max (nesting.earlier.getD 0) nesting.sequenceDepth) }

/-- The level with all of it so far as the first operand of an operator. -/
def operate (nesting : Nesting) : Nesting :=
  { earlier := some nesting.depth }

end Nesting

end PocketTools.Journal
