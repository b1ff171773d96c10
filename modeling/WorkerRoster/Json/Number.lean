import WorkerRoster.Decimal.Shortest
import WorkerRoster.Decimal.Whole

/-!
# Numbers of a JSON Document

A number is kept as a 64-bit word where it is written without fraction and exponent and fits one,
and as a binary64 number otherwise. Reading scales the first significant digits by one power of ten;
writing gives the shortest decimal that reads as the same number.
-/

set_option autoImplicit false

namespace WorkerRoster.Json

/-- A number as a document holds it. -/
inductive Number where
  /-- A whole number from 0 to `2 ^ 64 - 1`. -/
  | natural (value : UInt64)
  /-- The negation of a magnitude from 1 to `2 ^ 63`. -/
  | negative (magnitude : UInt64)
  /-- A binary64 number, by its bits. -/
  | real (bits : UInt64)
  deriving DecidableEq, Repr

/-! ## Spelling -/

/-- The parts of a number as it is written: sign, digits before and after the point, exponent. -/
structure NumberText where
  /-- Whether a minus sign stands in front. -/
  isNegative : Bool
  /-- The digits before the point: `0`, or digits that do not begin with `0`. -/
  whole : List Char
  /-- The digits after the point, if there is one. -/
  fraction : Option (List Char)
  /-- Whether the exponent is negative, and its digits. -/
  exponent : Option (Bool × List Char)
  deriving DecidableEq, Repr

/-! ## Reading -/

/-- The digits taken up so far: a significand that fits a word, and how many powers of ten it has
    to be multiplied by. -/
structure Significand where
  /-- The number the digits taken make up. -/
  value : Nat
  /-- The power of ten that the digits left out, or taken after the point, account for. -/
  scale : Int
  deriving Repr

namespace Significand

/-- Take digits before the point while the number fits a word; each digit after that only
    multiplies by ten. -/
def takeWhole (s : Significand) : List Char → Significand
  | [] => s
  | c :: rest =>
    let next := s.value * 10 + (Decimal.digitValue? c).getD 0
    if s.scale = 0 ∧ next < Decimal.wordSize then takeWhole { s with value := next } rest
    else takeWhole { s with scale := s.scale + 1 } rest

/-- Take digits after the point while the number fits a word; the first that does not ends it. -/
def takeFraction (s : Significand) : List Char → Significand
  | [] => s
  | c :: rest =>
    let next := s.value * 10 + (Decimal.digitValue? c).getD 0
    if next < Decimal.wordSize then takeFraction ⟨next, s.scale - 1⟩ rest else s

end Significand

/-- The binary64 number nearest to `10 ^ e`. -/
def powerOfTen (e : Nat) : Float :=
  Float.ofScientific 1 false e

/-- Divide by `10 ^ e`, in steps that a binary64 number can express. -/
def divideByPower (x : Float) (e : Nat) : Float :=
  if e ≤ 308 then x / powerOfTen e
  else if x == 0 then x
  else divideByPower (x / powerOfTen 308) (e - 308)
termination_by e

/-- A significand times a power of ten, none where that exceeds every binary64 number. -/
def scaled? (significand : Nat) (e : Int) : Option Float :=
  let x := significand.toUInt64.toFloat
  if e < 0 then some (divideByPower x (-e).toNat)
  else if e ≤ 308 then
    let y := x * powerOfTen e.toNat
    if y.isInf then none else some y
  else if significand = 0 then some x
  else none

/-- The largest magnitude of a negative number in a word. -/
def halfWord : Nat := 0x8000000000000000

namespace NumberText

/-- The exponent as an integer, zero if none is written. -/
def exponentValue (t : NumberText) : Int :=
  match t.exponent with
  | none => 0
  | some (isNegative, digits) =>
    let e : Int := (Decimal.continue? 0 digits).getD 0
    if isNegative then -e else e

/-- A binary64 number, by its bits. -/
private def real (isNegative : Bool) (x : Float) : Number :=
  .real (if isNegative then (-x).toBits else x.toBits)

/-- The number that a spelling stands for, none where it exceeds every binary64 number. -/
def number? (t : NumberText) : Option Number :=
  let whole := Significand.takeWhole ⟨0, 0⟩ t.whole
  match t.fraction, t.exponent with
  | none, none =>
    if whole.scale ≠ 0 then
      (scaled? whole.value whole.scale).map (real t.isNegative)
    else if !t.isNegative then
      some (.natural whole.value.toUInt64)
    -- minus zero is no word, and neither is a magnitude beyond the signed range
    else if whole.value = 0 ∨ halfWord < whole.value then
      some (real true whole.value.toUInt64.toFloat)
    else
      some (.negative whole.value.toUInt64)
  | fraction, _ =>
    let all := whole.takeFraction (fraction.getD [])
    (scaled? all.value (all.scale + t.exponentValue)).map (real t.isNegative)

end NumberText

/-! ## Writing -/

/-- The layout of a decimal `c * 10 ^ k`: positional with at least one digit on each side of the
    point while the leading digit stands between `10 ^ -5` and `10 ^ 15`, with a signed exponent
    otherwise. -/
def layOut (c : Nat) (k : Int) : List Char :=
  let ds := Decimal.digits c
  let point := (ds.length : Int) + k
  if 0 ≤ k ∧ point ≤ 16 then
    ds ++ List.replicate k.toNat '0' ++ ['.', '0']
  else if 0 < point ∧ point ≤ 16 then
    ds.take point.toNat ++ '.' :: ds.drop point.toNat
  else if -5 < point ∧ point ≤ 0 then
    ['0', '.'] ++ List.replicate (-point).toNat '0' ++ ds
  else
    let e := point - 1
    let exponent := ['e', if e < 0 then '-' else '+'] ++ Decimal.digits e.natAbs
    match ds with
    | d :: rest@(_ :: _) => d :: '.' :: rest ++ exponent
    | ds => ds ++ exponent

/-- The magnitude of a binary64 number as a binary fraction. -/
def magnitude (bits : UInt64) : Decimal.BinaryFraction :=
  let stored : Nat := (bits &&& 0xfffffffffffff).toNat
  let biased : Nat := (bits >>> 52 &&& 0x7ff).toNat
  if biased = 0 then ⟨stored, -1074, false⟩
  else ⟨0x10000000000000 + stored, (biased : Int) - 1075, stored = 0 ∧ 1 < biased⟩

/-- The text of a binary64 number: always with a fraction or an exponent. -/
def realChars (bits : UInt64) : List Char :=
  let x := magnitude bits
  let sign := if halfWord ≤ bits.toNat then ['-'] else []
  if x.mantissa = 0 then sign ++ ['0', '.', '0']
  else
    let (c, k) := x.shortest
    sign ++ layOut c k

/-- The text of a number. -/
def Number.chars : Number → List Char
  | .natural n => Decimal.digits n.toNat
  | .negative n => '-' :: Decimal.digits n.toNat
  | .real bits => realChars bits

end WorkerRoster.Json
