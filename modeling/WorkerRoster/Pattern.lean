import WorkerRoster.Pattern.Bracket
import WorkerRoster.Text.Alphabetic
import WorkerRoster.Text.Numeric

/-!
# Patterns

Which texts are regular expressions that can be compiled to a matcher. The matcher knows no tables
of Unicode properties and reads text as UTF-8, so besides well-formed syntax two things are asked of
a pattern: what would need such a table (letters in either case, classes such as `\d`, word edges)
stands only where Unicode is switched off, and nothing there matches a piece of a character. Nor may
its parts be nested too deep.

Patterns come from filter directives, where a closing brace ends the pattern. So an opening brace,
which would have to be closed, is sound only as a plain character in a class or behind a backslash.
-/

set_option autoImplicit false

namespace WorkerRoster.Pattern

/-! ## Groups -/

/-- What an opening parenthesis opens. -/
inductive Opening where
  /-- Nothing: the mode changes from here on. -/
  | mode (m : Mode)
  /-- A group with a mode of its own, and perhaps a name. -/
  | group (m : Mode) (name : Option (List Char))
  deriving DecidableEq, Repr

/-- Whether a group can have a name. -/
def isGroupName : List Char → Bool
  | [] => false
  | c :: rest =>
    (c = '_' || Text.isAlphabetic c) &&
      rest.all fun c => ['_', '.', '[', ']'].contains c || Text.isAlphabetic c || Text.isNumeric c

/-- Read the name of a group and the angle behind it. -/
def named? (m : Mode) (cs : List Char) : Option (Opening × List Char) :=
  let name := cs.takeWhile (· ≠ '>')
  match cs.dropWhile (· ≠ '>') with
  | _ :: rest => if isGroupName name then some (.group m (some name), rest) else none
  | [] => none

/-- Read a word that switches modes, for the group behind a colon or for all that follows. -/
def switched? (m : Mode) (cs : List Char) : Option (Opening × List Char) :=
  let isInside (c : Char) := c ≠ ':' ∧ c ≠ ')'
  let word := cs.takeWhile (isInside ·)
  if Mode.isSwitch word then
    match cs.dropWhile (isInside ·) with
    | ':' :: rest => some (.group (m.switch word) none, rest)
    | _ :: rest => if word = [] then none else some (.mode (m.switch word), rest)
    | [] => none
  else none

/-- Read what stands behind an opening parenthesis. -/
def opening? (m : Mode) (cs : List Char) : Option (Opening × List Char) :=
  match m.skip cs with
  | '?' :: 'P' :: '<' :: rest | '?' :: '<' :: rest => named? m rest
  | '?' :: rest => switched? m rest
  | rest => some (.group m none, rest)

/-! ## The whole -/

/-- A place in a pattern. -/
structure Place where
  mode : Mode := {}
  /-- What is read of the group that is open, or of the whole. -/
  nest : Nest := {}
  /-- The modes around the groups that are open, and what is read there, innermost first. -/
  outer : List (Mode × Nest) := []
  /-- The names of groups so far. -/
  names : List (List Char) := []
  /-- Whether something stands in front that can be repeated. -/
  isRepeatable : Bool := false
  deriving Repr

namespace Place

/-- The place behind a part of some depth. -/
def add (p : Place) (depth : Nat) : Place :=
  { p with nest := p.nest.add depth, isRepeatable := true }

/-- The place behind an opening parenthesis, none if the name of a group is there already. -/
def enter? (p : Place) : Opening → Option Place
  | .mode m => some { p.add 0 with mode := m, isRepeatable := false }
  | .group m name =>
    if name.any p.names.contains then none
    else
      some
        { mode := m, outer := (p.mode, p.nest) :: p.outer, names := name.toList ++ p.names,
          nest := {}, isRepeatable := false }

/-- The place behind a closing parenthesis, none if no group is open. -/
def leave? (p : Place) : Option Place :=
  match p.outer with
  | (mode, nest) :: outer => some ({ p with mode, nest, outer }.add (p.nest.depth + 1))
  | [] => none

/-- Go on behind the next part, none if there is no sound one. -/
def step? (p : Place) : List Char → Option (Place × List Char)
  | [] => none
  | '(' :: rest =>
    match opening? p.mode rest with
    | some (opening, rest) => (p.enter? opening).map (·, rest)
    | none => none
  | ')' :: rest => p.leave?.map (·, rest)
  | '|' :: rest => some ({ p with nest := p.nest.alternative, isRepeatable := false }, rest)
  | '[' :: rest => (class? p.mode rest).map fun (depth, rest) => (p.add depth, rest)
  | '?' :: rest | '*' :: rest | '+' :: rest =>
    if p.isRepeatable then
      let p := { p with nest := p.nest.repeatLast }
      match rest with
      | '?' :: rest => some (p, rest)
      | rest => some (p, rest)
    else none
  | '\x7b' :: _ => none
  | '.' :: rest => if p.mode.isUnicode then some (p.add 0, rest) else none
  | '^' :: rest | '$' :: rest => some (p.add 0, rest)
  | cs =>
    match part? p.mode cs with
    | some (part, rest) => if part.isSound p.mode then some (p.add 0, rest) else none
    | none => none

/-- Read the rest of a pattern, with at most `fuel` parts: how deep the whole is nested. -/
def depthFrom? : Nat → Place → List Char → Option Nat
  | 0, _, _ => none
  | fuel + 1, p, cs =>
    match p.mode.skip cs with
    | [] => if p.outer.isEmpty then some p.nest.depth else none
    | cs =>
      match p.step? cs with
      | some (p, rest) => depthFrom? fuel p rest
      | none => none

end Place

/-- How deep the parts of a pattern are nested, none if it is not sound. -/
def depth? (cs : List Char) : Option Nat :=
  Place.depthFrom? (cs.length + 1) {} cs

/-- How deep parts may be nested. -/
def maxDepth : Nat := 250

/-- Whether a text is a pattern. -/
def isPattern (cs : List Char) : Bool :=
  (depth? cs).any (· ≤ maxDepth)

end WorkerRoster.Pattern
