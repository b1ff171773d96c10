import WorkerRoster.Pattern.Mode
import WorkerRoster.Text.Hexadecimal

/-!
# Single Parts

The parts of a pattern that stand for themselves: characters, plain or behind a backslash, classes
that go by a letter, and edges.
-/

set_option autoImplicit false

namespace WorkerRoster.Pattern

/-- A part that stands for itself. -/
inductive Part where
  /-- One character, perhaps written as the number of a byte. -/
  | literal (c : Char) (isByte : Bool)
  /-- A class that goes by one letter, perhaps negated. -/
  | shorthand (isNegated : Bool)
  /-- The beginning or end of the text. -/
  | textEdge
  /-- A place that is, or is not, between words. -/
  | wordEdge
  deriving DecidableEq, Repr

namespace Part

/-- Whether a part can stand outside a class. -/
def isSound (m : Mode) : Part → Bool
  | .literal c isByte => !m.needsCases && (m.isUnicode || !(isByte && 128 ≤ c.toNat))
  | .shorthand isNegated => !m.isUnicode && !isNegated
  | .textEdge => true
  | .wordEdge => !m.isUnicode

/-- Whether a part can stand in a class. -/
def isSoundInClass (m : Mode) : Part → Bool
  | .literal c _ => !m.needsCases && (m.isUnicode || c.toNat < 128)
  | .shorthand isNegated => !m.isUnicode && !isNegated
  | .textEdge | .wordEdge => false

end Part

/-- Read so many hexadecimal digits behind a value. -/
def hex? (m : Mode) : Nat → Nat → List Char → Option (Nat × List Char)
  | 0, value, cs => some (value, cs)
  | n + 1, value, cs =>
    match m.skip cs with
    | [] => none
    | c :: rest =>
      match Text.hexValue? c with
      | some d => hex? m n (value * 16 + d) rest
      | none => none

/-- Read a character that is given by so many hexadecimal digits. -/
def coded? (m : Mode) (digits : Nat) (cs : List Char) : Option (Part × List Char) :=
  match hex? m digits 0 cs with
  | some (n, rest) =>
    if n.isValidChar then some (.literal (Char.ofNat n) (digits = 2), rest) else none
  | none => none

/-- Read what stands behind a backslash. -/
def escape? (m : Mode) : List Char → Option (Part × List Char)
  | [] => none
  | c :: rest =>
    match c with
    | 'x' => coded? m 2 rest
    | 'u' => coded? m 4 rest
    | 'U' => coded? m 8 rest
    | 'd' | 's' | 'w' => some (.shorthand false, rest)
    | 'D' | 'S' | 'W' => some (.shorthand true, rest)
    | 'A' | 'z' => some (.textEdge, rest)
    | 'b' | 'B' | '<' | '>' => some (.wordEdge, rest)
    | 'a' => some (.literal '\x07' false, rest)
    | 't' => some (.literal '\t' false, rest)
    | 'n' => some (.literal '\n' false, rest)
    | 'v' => some (.literal '\x0b' false, rest)
    | 'f' => some (.literal '\x0c' false, rest)
    | 'r' => some (.literal '\r' false, rest)
    | c =>
      if c.toNat < 128 && !c.isAlphanum then some (.literal c false, rest) else none

/-- Read a part that a backslash or the character itself writes. -/
def part? (m : Mode) : List Char → Option (Part × List Char)
  | [] => none
  | '\\' :: rest => escape? m rest
  | c :: rest => some (.literal c false, rest)

end WorkerRoster.Pattern
