import Mathlib.Data.Nat.Digits.Defs
import Mathlib.Tactic.Ring
import WorkerRoster.Decimal.Whole
import WorkerRoster.Proofs.Text.Trimming

/-!
# Numerals

A numeral is a run of decimal digits with or without a plus sign in front. Its value is what the
digits are worth in base ten, however many there are and however many of them are zeros at the
front. A text that a person typed is read as a whole number just if trimming leaves a numeral of it,
and the number is the value of the numeral, if it is neither too large for a word nor out of range.

Nothing depends on numbers being larger than a word meanwhile. Digits only ever make a number
larger, so one that is put together in a word and given up as soon as the word overflows is given up
just if the whole of it does not fit.

## Main statements

- `Decimal.value?_dropPlus_iff`: the texts that are read as a number are the numerals of its value
- `Decimal.map_toNat_continueWord?`: what becomes of digits that are put together in a word
- `Decimal.wholeWithin?_eq_some_iff`: which whole number a text is read as
-/

set_option autoImplicit false

namespace WorkerRoster.Decimal

/-! ## Digits -/

/-- A character has a value just if it is the digit of that value. -/
theorem digitValue?_eq_some_iff {c : Char} {d : Nat} :
    digitValue? c = some d ↔ d < 10 ∧ c = Nat.digitChar d := by
  constructor
  · intro h
    unfold digitValue? at h
    split at h
    · next hc =>
      -- there are ten such characters
      have hall : ∀ n ∈ List.range' 48 10,
          n - '0'.toNat < 10 ∧ Char.ofNat n = Nat.digitChar (n - '0'.toNat) := by decide
      have hlow : 48 ≤ c.toNat := hc.1
      have hhigh : c.toNat ≤ 57 := hc.2
      have hdigit := hall c.toNat (List.mem_range'_1.2 ⟨hlow, by omega⟩)
      rw [Char.ofNat_toNat] at hdigit
      rwa [← Option.some.inj h]
    · cases h
  · rintro ⟨hd, rfl⟩
    exact digitValue?_digitChar d hd

theorem digitChar_ne_plus : ∀ d : Fin 10, Nat.digitChar d ≠ '+' := by
  decide

/-- The numbers that fit a word, written out. -/
theorem wordSize_eq : wordSize = 18446744073709551616 :=
  rfl

/-- The characters of digits. -/
def spell (ds : List (Fin 10)) : List Char :=
  ds.map fun d : Fin 10 => Nat.digitChar d

/-- What digits are worth, the first one most. -/
def worth (ds : List (Fin 10)) : Nat :=
  Nat.ofDigits 10 (ds.reverse.map Fin.val)

theorem worth_cons (d : Fin 10) (ds : List (Fin 10)) :
    worth (d :: ds) = d * 10 ^ ds.length + worth ds := by
  rw [worth, List.reverse_cons, List.map_append, Nat.ofDigits_append]
  simp only [List.map_cons, List.map_nil, Nat.ofDigits_singleton, List.length_map,
    List.length_reverse]
  rw [worth, Nat.mul_comm, Nat.add_comm]

/-- Digits move a number to the left and fill up its places on the right. -/
theorem continue?_eq_some_iff {value n : Nat} {cs : List Char} :
    continue? value cs = some n ↔
      ∃ ds, cs = spell ds ∧ value * 10 ^ ds.length + worth ds = n := by
  induction cs generalizing value with
  | nil =>
    constructor
    · intro h
      cases h
      exact ⟨[], rfl, by simp [worth]⟩
    · rintro ⟨ds, hds, rfl⟩
      obtain rfl : ds = [] := List.map_eq_nil_iff.1 hds.symm
      simp [continue?, worth]
  | cons c cs ih =>
    -- one digit is put behind the number, the others behind that
    have hnext : ∀ (d : Fin 10) (ds : List (Fin 10)),
        value * 10 ^ (d :: ds).length + worth (d :: ds) =
          (value * 10 + d) * 10 ^ ds.length + worth ds := by
      intro d ds
      rw [worth_cons, List.length_cons]
      ring
    constructor
    · intro h
      unfold continue? at h
      split at h
      · next d hd =>
        obtain ⟨hlt, rfl⟩ := digitValue?_eq_some_iff.1 hd
        obtain ⟨ds, rfl, rfl⟩ := ih.1 h
        exact ⟨⟨d, hlt⟩ :: ds, rfl, hnext ⟨d, hlt⟩ ds⟩
      · cases h
    · rintro ⟨ds, hds, rfl⟩
      cases ds with
      | nil => cases hds
      | cons d ds =>
        obtain ⟨rfl, rfl⟩ := List.cons.inj hds
        rw [continue?, digitValue?_digitChar d d.isLt]
        exact ih.2 ⟨ds, rfl, (hnext d ds).symm⟩

/-! ## Numerals -/

/-- A whole number as it can be written. -/
structure Numeral where
  /-- Whether there is a plus sign in front. -/
  hasPlus : Bool
  /-- The digits, the first one first. -/
  digits : List (Fin 10)
  digits_ne_nil : digits ≠ []

namespace Numeral

/-- A numeral as it is written. -/
def text (x : Numeral) : String :=
  (if x.hasPlus then "+" else "") ++ String.ofList (spell x.digits)

/-- The number that a numeral stands for. -/
def value (x : Numeral) : Nat :=
  worth x.digits

theorem toList_text (x : Numeral) :
    x.text.toList = (if x.hasPlus then ['+'] else []) ++ spell x.digits := by
  rw [text, String.toList_append, String.toList_ofList]
  split <;> rfl

theorem dropPlus_text (x : Numeral) : dropPlus x.text.toList = spell x.digits := by
  rw [toList_text]
  split
  · rfl
  · -- the first digit is no plus sign
    obtain ⟨d, ds, hds⟩ := List.exists_cons_of_ne_nil x.digits_ne_nil
    rw [hds, List.nil_append, spell, List.map_cons, dropPlus]
    exact fun rest hplus => digitChar_ne_plus d (List.cons.inj hplus).1

end Numeral

theorem value?_of_ne_nil {cs : List Char} (h : cs ≠ []) : value? cs = continue? 0 cs := by
  obtain ⟨c, cs, rfl⟩ := List.exists_cons_of_ne_nil h
  rfl

/-- A text without blanks around it is read as a number just if it is a numeral of that value. -/
theorem value?_dropPlus_iff {s : String} {n : Nat} :
    value? (dropPlus s.toList) = some n ↔ ∃ x : Numeral, x.text = s ∧ x.value = n := by
  constructor
  · intro h
    have hne : dropPlus s.toList ≠ [] := by
      intro hnil
      rw [hnil] at h
      cases h
    rw [value?_of_ne_nil hne] at h
    obtain ⟨ds, hds, hn⟩ := continue?_eq_some_iff.1 h
    have hdigits : ds ≠ [] := by
      rintro rfl
      exact hne hds
    rw [Nat.zero_mul, Nat.zero_add] at hn
    -- whether there was a plus sign to drop
    unfold dropPlus at hds
    split at hds
    · next rest hrest =>
      refine ⟨⟨true, ds, hdigits⟩, ?_, hn⟩
      rw [← String.toList_inj, Numeral.toList_text, hrest, hds]
      rfl
    · refine ⟨⟨false, ds, hdigits⟩, ?_, hn⟩
      rw [← String.toList_inj, Numeral.toList_text, hds]
      rfl
  · rintro ⟨x, rfl, rfl⟩
    have hne : spell x.digits ≠ [] := fun hnil => x.digits_ne_nil (List.map_eq_nil_iff.1 hnil)
    rw [x.dropPlus_text, value?_of_ne_nil hne]
    exact continue?_eq_some_iff.2 ⟨x.digits, rfl, by rw [Nat.zero_mul, Nat.zero_add]; rfl⟩

/-! ## Words -/

/-- The largest number that fits a word. -/
def maxWord : UInt64 := 18446744073709551615

/-- A digit put behind the digits of a word, none if a word does not hold the number. -/
def appendDigit? (word d : UInt64) : Option UInt64 :=
  if word ≤ (maxWord - d) / 10 then some (word * 10 + d) else none

/-- The number that characters continue a word to, given up where a word does not hold it. -/
def continueWord? (word : UInt64) : List Char → Option UInt64
  | [] => some word
  | c :: rest =>
    (digitValue? c).bind fun d =>
      (appendDigit? word d.toUInt64).bind (continueWord? · rest)

/-- The whole number written in a text, if it lies between `low` and `high`, put together in a
    word. -/
def wordWithin? (low high : UInt64) (s : String) : Option UInt64 :=
  match dropPlus (Text.trimChars s.toList) with
  | [] => none
  | c :: cs => (continueWord? 0 (c :: cs)).filter fun n => low ≤ n ∧ n ≤ high

theorem toNat_digit {d : Nat} (hd : d < 10) : d.toUInt64.toNat = d :=
  UInt64.toNat_ofNat_of_lt' (Nat.lt_trans hd (by decide))

/-- A digit can be put behind a word just if the number is one that fits. -/
theorem appendDigit?_eq (word : UInt64) {d : Nat} (hd : d < 10) :
    appendDigit? word d.toUInt64 =
      if word.toNat * 10 + d < wordSize then some (word * 10 + d.toUInt64) else none := by
  have hdigit : d.toUInt64.toNat = d := toNat_digit hd
  have hle : d.toUInt64 ≤ maxWord := by
    rw [UInt64.le_iff_toNat_le, hdigit]
    exact Nat.le_trans (Nat.le_of_lt hd) (by decide)
  have hfits : word ≤ (maxWord - d.toUInt64) / 10 ↔ word.toNat * 10 + d < wordSize := by
    rw [UInt64.le_iff_toNat_le, UInt64.toNat_div, UInt64.toNat_sub_of_le _ _ hle, hdigit]
    show word.toNat ≤ (18446744073709551615 - d) / 10 ↔ _
    rw [wordSize_eq]
    omega
  simp only [appendDigit?, hfits]

/-- Put together in a word, digits come to what they are worth if that fits a word. -/
theorem map_toNat_continueWord? (word : UInt64) (cs : List Char) :
    (continueWord? word cs).map UInt64.toNat =
      (continue? word.toNat cs).filter (· < wordSize) := by
  induction cs generalizing word with
  | nil =>
    have hfits : word.toNat < wordSize := word.toNat_lt
    rw [continueWord?, continue?, Option.map_some, Option.filter_some,
      if_pos (decide_eq_true hfits)]
  | cons c cs ih =>
    cases hd : digitValue? c with
    | none => simp [continueWord?, continue?, hd]
    | some d =>
      have hlt : d < 10 := (digitValue?_eq_some_iff.1 hd).1
      simp only [continueWord?, continue?, hd, Option.bind_some]
      rw [appendDigit?_eq word hlt]
      split
      · next hfits =>
        -- no word has overflowed, so the next word is the next number
        have hnext : (word * 10 + d.toUInt64).toNat = word.toNat * 10 + d := by
          rw [UInt64.toNat_add, UInt64.toNat_mul, toNat_digit hlt]
          show (word.toNat * 10 % 18446744073709551616 + d) % 18446744073709551616 = _
          rw [wordSize_eq] at hfits
          omega
        rw [Option.bind_some, ih, hnext]
      · next hover =>
        -- what comes behind makes the number no smaller
        rw [Option.bind_none, Option.map_none, eq_comm, Option.filter_eq_none_iff]
        intro n hn
        obtain ⟨ds, -, rfl⟩ := continue?_eq_some_iff.1 hn
        have hle : word.toNat * 10 + d ≤ (word.toNat * 10 + d) * 10 ^ ds.length :=
          Nat.le_mul_of_pos_right _ (Nat.pow_pos (by decide))
        simp only [decide_eq_true_eq]
        omega

/-! ## Reading -/

theorem wholeWithin?_eq (low high : Nat) (s : String) :
    wholeWithin? low high s =
      (value? (dropPlus (Text.trim s).toList)).filter
        fun n => n < wordSize ∧ low ≤ n ∧ n ≤ high := by
  rw [Text.trim, String.toList_ofList, wholeWithin?]
  cases value? (dropPlus (Text.trimChars s.toList)) with
  | none => rfl
  | some n => simp [Option.filter_some]

/-- A text that is typed is read just if trimming leaves a numeral, whose value fits a word and lies
    within the bounds, and it is read as this value. Of a numeral it is never read as another
    number. It makes no difference if the number is put together in a word, which must not
    overflow. -/
theorem wholeWithin?_eq_some_iff (s : String) :
    (∀ low high n, wholeWithin? low high s = some n ↔
      ∃ x : Numeral, Text.TrimsTo s x.text ∧ x.value = n ∧ n < 2 ^ 64 ∧ low ≤ n ∧ n ≤ high) ∧
    (∀ x : Numeral, Text.TrimsTo s x.text → ∀ low high, wholeWithin? low high s =
      if x.value < 2 ^ 64 ∧ low ≤ x.value ∧ x.value ≤ high then some x.value else none) ∧
    ∀ low high : UInt64,
      (wordWithin? low high s).map UInt64.toNat = wholeWithin? low.toNat high.toNat s := by
  refine ⟨?reads, ?exact, ?words⟩
  case reads =>
    intro low high n
    rw [wholeWithin?_eq, Option.filter_eq_some_iff, value?_dropPlus_iff]
    simp only [← Text.trim_eq_iff, decide_eq_true_eq]
    constructor
    · rintro ⟨⟨x, htext, hvalue⟩, hbounds⟩
      exact ⟨x, htext.symm, hvalue, hbounds⟩
    · rintro ⟨x, htext, hvalue, hbounds⟩
      exact ⟨⟨x, htext.symm, hvalue⟩, hbounds⟩
  case exact =>
    intro x hx low high
    have hvalue : value? (dropPlus (Text.trim s).toList) = some x.value :=
      value?_dropPlus_iff.2 ⟨x, ((Text.trim_eq_iff s _).2 hx).symm, rfl⟩
    rw [wholeWithin?_eq, hvalue, Option.filter_some]
    simp only [decide_eq_true_eq]
    rfl
  case words =>
    intro low high
    rw [wholeWithin?_eq, Text.trim, String.toList_ofList, wordWithin?]
    cases dropPlus (Text.trimChars s.toList) with
    | nil => rfl
    | cons c cs =>
      -- the bounds are asked of the number, whether it is in a word or not
      have hword := map_toNat_continueWord? 0 (c :: cs)
      rw [UInt64.toNat_zero] at hword
      have hbounds : (continue? 0 (c :: cs)).filter
          (fun n => n < wordSize ∧ low.toNat ≤ n ∧ n ≤ high.toNat) =
            ((continue? 0 (c :: cs)).filter (· < wordSize)).filter
              fun n => low.toNat ≤ n ∧ n ≤ high.toNat := by
        rw [Option.filter_filter]
        simp only [Bool.decide_and]
      rw [value?_of_ne_nil (List.cons_ne_nil c cs), hbounds, ← hword, Option.filter_map]
      rfl

/-- Zeros in front do no harm, however many there are. A number of more than twenty digits is not
    taken for the small one that is left of it in a word. -/
theorem wholeWithin?_eq_some_iff_padded :
    let seven : Numeral := ⟨false, List.replicate 40 0 ++ [7], by decide⟩
    let large : Numeral :=
      ⟨true, [0, 1, 8, 4, 4, 6, 7, 4, 4, 0, 7, 3, 7, 0, 9, 5, 5, 1, 6, 2, 3], by decide⟩
    Text.TrimsTo ("\u2003" ++ seven.text ++ "\n") seven.text ∧
      wholeWithin? 1 1000000 ("\u2003" ++ seven.text ++ "\n") = some 7 ∧
      Text.TrimsTo large.text large.text ∧ large.value.toUInt64 = 7 ∧
      wholeWithin? 1 1000000 large.text = none := by
  intro seven large
  have hseven : Text.TrimsTo ("\u2003" ++ seven.text ++ "\n") seven.text :=
    (Text.trim_eq_iff _ _).1 (by decide +kernel)
  have hover : Text.TrimsTo large.text large.text := (Text.trim_eq_iff _ _).1 (by decide +kernel)
  refine ⟨hseven, ?_, hover, by decide +kernel, ?_⟩
  · exact ((wholeWithin?_eq_some_iff _).1 1 1000000 7).2
      ⟨seven, hseven, by decide +kernel, by decide, by decide, by decide⟩
  · rw [(wholeWithin?_eq_some_iff large.text).2.1 large hover 1 1000000]
    decide +kernel

end WorkerRoster.Decimal
