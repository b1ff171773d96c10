/-!
# Nested Parts

How deep parts are nested in each other. Parts that stand side by side are one level if there are
two or more of them, and so is each pair of brackets and each repetition. The same account serves
for groups, where all alternatives are one level, and for classes, where each operator is one.
-/

set_option autoImplicit false

namespace WorkerRoster.Pattern

/-- What stands between two brackets, as far as it matters for how deep parts are nested. -/
structure Nest where
  /-- How many parts stand side by side at the end. -/
  parts : Nat := 0
  /-- The depth of the last of them. -/
  last : Nat := 0
  /-- The depth of the deepest of the others. -/
  others : Nat := 0
  /-- The depth of what stands before, on the other side of a bar or an operator. -/
  before : Option Nat := none
  deriving DecidableEq, Repr

namespace Nest

/-- The deeper of two depths. -/
def deeper (a b : Nat) : Nat :=
  if a < b then b else a

/-- Add a part of some depth. -/
def add (n : Nest) (depth : Nat) : Nest :=
  { n with parts := n.parts + 1, last := depth, others := deeper n.others n.last }

/-- Add so many parts that have nothing in them. -/
def addPlain : Nat → Nest → Nest
  | 0, n => n
  | count + 1, n => addPlain count (n.add 0)

/-- Repeat the last part. -/
def repeatLast (n : Nest) : Nest :=
  { n with last := n.last + 1 }

/-- The depth of the parts that stand side by side at the end. -/
def row (n : Nest) : Nat :=
  if n.parts < 2 then n.last else deeper n.others n.last + 1

/-- The depth of everything. -/
def depth (n : Nest) : Nat :=
  match n.before with
  | none => n.row
  | some before => deeper before n.row + 1

/-- Begin another alternative. -/
def alternative (n : Nest) : Nest :=
  { before := some (deeper (n.before.getD 0) n.row) }

/-- Begin the other side of an operator. -/
def operand (n : Nest) : Nest :=
  { before := some n.depth }

end Nest

end WorkerRoster.Pattern
