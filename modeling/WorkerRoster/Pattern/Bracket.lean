import WorkerRoster.Pattern.Nest
import WorkerRoster.Pattern.Part

/-!
# Classes

Sets of characters between brackets: single characters, ranges, classes that go by a name or a
letter, and other classes, joined by operators. Nothing but operators has to stand in a class:
`[&&]` is the class of what is in both of two empty ones. Where it takes a table to match characters
in either case, such classes are the only sound ones.
-/

set_option autoImplicit false

namespace WorkerRoster.Pattern

/-- The classes that go by a name. -/
def classNames : List String :=
  ["alnum", "alpha", "ascii", "blank", "cntrl", "digit", "graph", "lower", "print", "punct",
   "space", "upper", "word", "xdigit"]

/-- Whether a named class can stand in a class. -/
def isSoundName (m : Mode) (isNegated : Bool) : Bool :=
  !m.needsCases && (m.isUnicode || !isNegated)

/-- Read a named class behind its opening bracket: whether it is negated. -/
def namedClass? : List Char → Option (Bool × List Char)
  | ':' :: cs =>
    let (isNegated, cs) :=
      match cs with
      | '^' :: rest => (true, rest)
      | rest => (false, rest)
    match cs.dropWhile (· ≠ ':') with
    | ':' :: ']' :: rest =>
      if classNames.contains (String.ofList (cs.takeWhile (· ≠ ':'))) then some (isNegated, rest)
      else none
    | _ => none
  | _ => none

/-- Read dashes, and whatever does not count between them: how many there are. -/
def dashes (m : Mode) (inComment : Bool) : List Char → Nat × List Char
  | [] => (0, [])
  | c :: rest =>
    if inComment then dashes m (c ≠ '\n') rest
    else if c = '-' then
      let (count, rest) := dashes m false rest
      (count + 1, rest)
    else if m.isSpaced && c = '#' then dashes m true rest
    else if m.isSpaced && Text.isBlankChar c then dashes m false rest
    else (0, c :: rest)

/-- Read the beginning of a class behind its opening bracket. A closing bracket that comes first is
    a character of the class, and so are all dashes that come first. What is not in a class of
    bytes may be a piece of a character. -/
def openClass? (m : Mode) (cs : List Char) : Option (Nest × List Char) :=
  let first (cs : List Char) : Option (Nest × List Char) :=
    let (count, rest) :=
      match cs with
      | ']' :: rest => (1, rest)
      | cs => dashes m false cs
    if m.needsCases && 0 < count then none else some (Nest.addPlain count {}, rest)
  match m.skip cs with
  | '^' :: rest => if m.isUnicode then first (m.skip rest) else none
  | rest => first rest

/-- Read one part of a class, or a range of characters in ascending order. -/
def range? (m : Mode) (cs : List Char) : Option (List Char) :=
  match part? m cs with
  | none => none
  | some (low, rest) =>
    match m.skip rest with
    | [] => none
    | '-' :: behind =>
      if m.peek? behind = some ']' ∨ m.peek? behind = some '-' then
        if low.isSoundInClass m then some ('-' :: behind) else none
      else
        match low, part? m (m.skip behind) with
        | .literal a _, some (.literal b isByte, rest) =>
          if a ≤ b ∧ Part.isSoundInClass m (.literal b isByte) then some rest else none
        | _, _ => none
    | rest => if low.isSoundInClass m then some rest else none

/-- Read the rest of a class, of which `nest` is read, in other classes that are open, innermost
    first, with at most `fuel` parts: how deep it is nested. -/
def classRest? (m : Mode) : Nat → List Nest → Nest → List Char → Option (Nat × List Char)
  | 0, _, _, _ => none
  | fuel + 1, outer, nest, cs =>
    match m.skip cs with
    | [] => none
    | '[' :: rest =>
      match namedClass? rest with
      | some (isNegated, rest) =>
        if isSoundName m isNegated then classRest? m fuel outer (nest.add 0) rest else none
      | none =>
        match openClass? m rest with
        | some (inner, rest) => classRest? m fuel (nest :: outer) inner rest
        | none => none
    | ']' :: rest =>
      match outer with
      | [] => some (nest.depth + 1, rest)
      | around :: outer => classRest? m fuel outer (around.add (nest.depth + 1)) rest
    | '&' :: '&' :: rest | '-' :: '-' :: rest | '~' :: '~' :: rest =>
      classRest? m fuel outer nest.operand rest
    | rest => (range? m rest).bind (classRest? m fuel outer (nest.add 0))

/-- Read a class behind its opening bracket: how deep it is nested. -/
def class? (m : Mode) (cs : List Char) : Option (Nat × List Char) :=
  (openClass? m cs).bind fun (nest, rest) => classRest? m (cs.length + 1) [] nest rest

end WorkerRoster.Pattern
