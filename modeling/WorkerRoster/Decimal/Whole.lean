import WorkerRoster.Text.Blank

/-!
# Whole Numbers in Decimal

Digits to numbers and back, and the reader for a whole number a person typed: blanks around it and
one leading plus sign are allowed, and the number must fit a 64-bit word and a given range.
-/

set_option autoImplicit false

namespace WorkerRoster.Decimal

/-! ## Digits -/

/-- The value of a decimal digit. -/
def digitValue? (c : Char) : Option Nat :=
  if '0' ≤ c ∧ c ≤ '9' then some (c.toNat - '0'.toNat) else none

/-- The number that `digits` continue after `value`, none if one of them is no digit. -/
def continue? (value : Nat) : List Char → Option Nat
  | [] => some value
  | c :: rest =>
    match digitValue? c with
    | some d => continue? (value * 10 + d) rest
    | none => none

/-- The value of a nonempty run of digits. -/
def value? : List Char → Option Nat
  | [] => none
  | cs => continue? 0 cs

/-- The shortest run of digits with a given value. -/
def digits (n : Nat) : List Char :=
  Nat.toDigits 10 n

/-- Digits are read from left to right. -/
theorem continue?_append (value : Nat) (front back : List Char) :
    continue? value (front ++ back) = (continue? value front).bind (continue? · back) := by
  induction front generalizing value with
  | nil => rfl
  | cons c rest ih =>
    match h : digitValue? c with
    | some d => simp [continue?, h, ih]
    | none => simp [continue?, h]

/-- The digit of a number below ten has that number for its value. -/
theorem digitValue?_digitChar : ∀ d < 10, digitValue? (Nat.digitChar d) = some d := by
  decide

/-- The digits of a number continue zero to that number. -/
theorem continue?_digits (n : Nat) : continue? 0 (digits n) = some n := by
  induction n using Nat.strongRecOn with
  | _ n ih =>
    by_cases h : n < 10
    · simp [digits, Nat.toDigits_of_lt_base h, continue?, digitValue?_digitChar n h]
    · have front := ih (n / 10) (by omega)
      rw [digits] at front ⊢
      rw [Nat.toDigits_of_base_le (by decide) (by omega), continue?_append, front]
      simp only [Option.bind_some, continue?,
        digitValue?_digitChar (n % 10) (Nat.mod_lt n (by decide))]
      congr 1
      omega

/-- The digits of a number read as that number. -/
theorem value?_digits (n : Nat) : value? (digits n) = some n := by
  have h := continue?_digits n
  match hd : digits n with
  | [] => exact absurd hd Nat.toDigits_ne_nil
  | c :: rest => rwa [hd] at h

/-! ## Reading -/

/-- One plus sign in front of a number says nothing. -/
def dropPlus : List Char → List Char
  | '+' :: rest => rest
  | cs => cs

/-- The least number that does not fit a 64-bit word. -/
def wordSize : Nat := UInt64.size

/-- The whole number written in a text, if it fits a word and lies between `low` and `high`. -/
def wholeWithin? (low high : Nat) (s : String) : Option Nat :=
  match value? (dropPlus (Text.trimChars s.toList)) with
  | some n => if n < wordSize ∧ low ≤ n ∧ n ≤ high then some n else none
  | none => none

end WorkerRoster.Decimal
