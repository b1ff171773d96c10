import Mathlib.Data.List.Forall2
import Mathlib.Tactic.IntervalCases
import WorkerRoster.Json.Decode
import WorkerRoster.Json.Printer

/-!
# Reading What Was Written

The compact text of a value is read back as that value, whatever characters its texts have: a
character that may not stand as it is has an escape, and each escape is read as the character it was
written for. Of numbers only those are considered that are kept in a word and not negative, which
are written digit by digit.

The machine that puts out tokens and the reader that takes them in are followed together, through
the text of one value after the other.

## Main statements

- `Json.Scan.run_textChars`: a text between quotation marks is read as that text
- `Json.Scan.run_digits`: the digits of a number are read as that number
- `Json.Document.ofText_render`: a value is read back from its compact text
-/

set_option autoImplicit false

namespace WorkerRoster

namespace Text

theorem hexValue?_hexDigit (n : Nat) : hexValue? (hexDigit n) = some (n % 16) := by
  have hdigit : ∀ d < 16, hexValue? (Nat.digitChar d) = some d := by decide
  exact hdigit (n % 16) (Nat.mod_lt n (by decide))

end Text

namespace Json

/-! ## Texts -/

/-- Whether an element of a string stands for a character by itself. -/
inductive Piece.Spells : Piece → Char → Prop where
  | char (c : Char) : Spells (.char c) c
  | unit {c : Char} (isControl : c.toNat < 0x20) : Spells (.unit c.toNat) c

/-- A unit below the surrogates stands for one character. -/
theorem joinPieces?_unit {n : Nat} (h : n < 0xd800) (rest : List Piece) :
    joinPieces? (.unit n :: rest) = (joinPieces? rest).map (Char.ofNat n :: ·) := by
  have hhigh : isHighSurrogate n = false := by
    simp [isHighSurrogate]
    omega
  have hlow : isLowSurrogate n = false := by
    simp [isLowSurrogate]
    omega
  -- only behind the first half of a pair would it matter what the next element is
  cases rest with
  | nil => simp [joinPieces?, hhigh, hlow]
  | cons p rest => cases p <;> simp [joinPieces?, hhigh, hlow]

theorem joinPieces?_of_spells {pieces : List Piece} {cs : List Char}
    (h : List.Forall₂ Piece.Spells pieces cs) : joinPieces? pieces = some cs := by
  induction h with
  | nil => rfl
  | @cons p c pieces cs hspells _ ih =>
    cases hspells with
    | char => simp [joinPieces?, ih]
    | unit isControl =>
      have hlow : c.toNat < 0xd800 := by omega
      simp [joinPieces?_unit hlow, ih]

namespace Scan

/-- A character that puts out nothing. -/
theorem run_cons {s s' : Scan} {c : Char} (h : s.step c = ([], some s')) (rest : List Char) :
    s.run (c :: rest) = s'.run rest := by
  simp [run, h]

/-- What is written for a character is read as an element that stands for it. -/
theorem exists_run_escapeChar (c : Char) :
    ∃ p, Piece.Spells p c ∧ ∀ pieces rest,
      (Scan.string pieces).run (escapeChar c ++ rest) = (Scan.string (p :: pieces)).run rest := by
  unfold escapeChar
  split
  case h_8 hquote hbackslash hb ht hn hf hr =>
    split
    · -- the last two digits of the escape are the whole number, as it is below 256
      next hcontrol =>
      refine ⟨.unit c.toNat, .unit hcontrol, fun pieces rest => ?_⟩
      have hvalue : (c.toNat / 16) % 16 * 16 + c.toNat % 16 = c.toNat := by omega
      simp [run, step, Text.hexValue?_hexDigit, hvalue, show Text.hexValue? '0' = some 0 from rfl]
    · next hplain =>
      refine ⟨.char c, .char c, fun pieces rest => run_cons ?_ rest⟩
      have hquote' : c ≠ '"' := hquote
      have hbackslash' : c ≠ '\\' := hbackslash
      simp [step, hquote', hbackslash', hplain]
  -- all others have an escape of one letter
  all_goals exact ⟨.char _, .char _, fun pieces rest => by simp [run, step, escapedChar?]⟩

/-- The inside of a written text, and the quotation mark behind it. -/
theorem run_escaped (cs : List Char) (pieces : List Piece) (rest : List Char) :
    ∃ more, List.Forall₂ Piece.Spells more cs ∧
      (Scan.string pieces).run (cs.flatMap escapeChar ++ '"' :: rest) =
        textToken (pieces.reverse ++ more) :: between.run rest := by
  induction cs generalizing pieces with
  | nil => exact ⟨[], .nil, by simp [run, step]⟩
  | cons c cs ih =>
    obtain ⟨p, hspells, hrun⟩ := exists_run_escapeChar c
    obtain ⟨more, hmore, hrest⟩ := ih (p :: pieces)
    refine ⟨p :: more, .cons hspells hmore, ?_⟩
    rw [List.flatMap_cons, List.append_assoc, hrun, hrest]
    simp

/-- A text between quotation marks is read as that text. -/
theorem run_textChars (s : String) (rest : List Char) :
    between.run (textChars s ++ rest) = .text s :: between.run rest := by
  obtain ⟨more, hmore, hrun⟩ := run_escaped s.toList [] rest
  have hopen : between.run (textChars s ++ rest) =
      (Scan.string []).run (s.toList.flatMap escapeChar ++ '"' :: rest) := by
    simp [textChars, run, step, begin]
  rw [hopen, hrun]
  simp [textToken, joinPieces?_of_spells hmore]

end Scan

/-! ## Numbers -/

section Numbers

open Decimal

theorem le_of_continue? {value n : Nat} {cs : List Char} (h : continue? value cs = some n) :
    value ≤ n := by
  induction cs generalizing value with
  | nil =>
    cases h
    exact Nat.le_refl _
  | cons c cs ih =>
    unfold continue? at h
    split at h
    · have hle := ih h
      omega
    · cases h

/-- Digits of a number that fits a word are all taken up. -/
theorem Significand.takeWhole_of_continue? {value n : Nat} {cs : List Char}
    (h : continue? value cs = some n) (fits : n < wordSize) :
    takeWhole ⟨value, 0⟩ cs = ⟨n, 0⟩ := by
  induction cs generalizing value with
  | nil =>
    cases h
    rfl
  | cons c cs ih =>
    unfold continue? at h
    split at h
    · next d hd =>
      have hle := le_of_continue? h
      have hnext : value * 10 + d < wordSize := by omega
      simpa [takeWhole, hd, hnext] using ih h
    · cases h

theorem number?_digits (n : UInt64) :
    (⟨false, digits n.toNat, none, none⟩ : NumberText).number? = some (.natural n) := by
  have hwhole : Significand.takeWhole ⟨0, 0⟩ (digits n.toNat) = ⟨n.toNat, 0⟩ :=
    Significand.takeWhole_of_continue? (continue?_digits n.toNat) n.toNat_lt
  simp [NumberText.number?, hwhole]

/-- Whether what follows a value is the end of the text, or a comma or bracket. -/
def IsDelimited (rest : List Char) : Prop :=
  ∀ c ∈ rest.head?, c = ',' ∨ c = ']' ∨ c = '\x7d'

theorem isDelimited_cons {c : Char} (h : c = ',' ∨ c = ']' ∨ c = '\x7d') (rest : List Char) :
    IsDelimited (c :: rest) := by
  simpa [IsDelimited] using h

/-- A number that may end is over where the text ends, or a comma or bracket follows. -/
theorem Scan.run_number {n : NumberScan} (complete : n.isComplete) {rest : List Char}
    (h : IsDelimited rest) : (Scan.number n).run rest = n.token :: between.run rest := by
  cases rest with
  | nil => simp [run, finish, complete]
  | cons c rest =>
    -- none of the three can be part of a number, whatever the number has come to
    have hc : c = ',' ∨ c = ']' ∨ c = '\x7d' := h c rfl
    have hdigit : isDigit c = false := by
      rcases hc with rfl | rfl | rfl <;> rfl
    have hadd : n.add? c = none := by
      rcases hc with rfl | rfl | rfl <;> unfold NumberScan.add? <;>
        cases n.stage <;> simp [isDigit]
    simp only [run, step, hadd, complete, hdigit]
    simp

/-- The digits of a number are taken in one after the other. -/
theorem Scan.run_digits_append {n : Nat} (h : n ≠ 0) (rest : List Char) :
    between.run (digits n ++ rest) =
      (Scan.number ⟨⟨false, digits n, none, none⟩, .whole⟩).run rest := by
  -- by the last digit, which is the last that is taken in
  induction n using Nat.strongRecOn generalizing rest with
  | _ n ih =>
    by_cases hlt : n < 10
    · rw [digits, Nat.toDigits_of_lt_base hlt]
      apply run_cons
      -- no single digit but zero may not be followed by another
      have hfirst : ∀ d < 10, d ≠ 0 → Nat.digitChar d ≠ '0' := by decide
      have hbegin : ∀ d < 10, begin (Nat.digitChar d) =
          ([], some (.number ((NumberScan.start false).addWhole (Nat.digitChar d)))) := by
        intro d hd
        interval_cases d <;> rfl
      rw [step, hbegin n hlt]
      simp [NumberScan.addWhole, NumberScan.start, hfirst n hlt h]
    · have hmore : n / 10 ≠ 0 := by omega
      have hfront := ih (n / 10) (by omega) hmore (Nat.digitChar (n % 10) :: rest)
      have hdigit : ∀ d < 10, isDigit (Nat.digitChar d) = true := by decide
      have hsome : digits (n / 10) ≠ [] := Nat.toDigits_ne_nil
      have hdigits : digits n = digits (n / 10) ++ [Nat.digitChar (n % 10)] :=
        Nat.toDigits_of_base_le (by decide) (by omega)
      rw [hdigits, List.append_assoc, List.singleton_append, hfront]
      apply run_cons
      simp [step, NumberScan.add?, NumberScan.addWhole, hdigit (n % 10) (by omega), hsome]

/-- The digits of a number are read as that number, if no other digit follows. -/
theorem Scan.run_digits (n : UInt64) {rest : List Char} (h : IsDelimited rest) :
    between.run (digits n.toNat ++ rest) = .number (.natural n) :: between.run rest := by
  by_cases hzero : n.toNat = 0
  · -- zero is the one number whose first digit is a zero
    have hn : n = 0 := UInt64.toNat_inj.1 hzero
    subst hn
    have hbegin : between.run (digits 0 ++ rest) =
        (Scan.number ((NumberScan.start false).addWhole '0')).run rest :=
      run_cons rfl rest
    rw [UInt64.toNat_zero, hbegin, run_number rfl h]
    rfl
  · rw [run_digits_append hzero, run_number rfl h]
    simp [NumberScan.token, number?_digits]

end Numbers

/-! ## Values -/

mutual

/-- Whether all numbers in a value are whole and none is negative. -/
def Value.IsWhole : Value → Prop
  | .number (.natural _) => True
  | .number (.negative _) | .number (.real _) => False
  | .array items => ItemsWhole items
  | .object members => MembersWhole members
  | .null | .bool _ | .text _ => True

/-- Whether all items are such values. -/
def ItemsWhole : List Value → Prop
  | [] => True
  | v :: rest => v.IsWhole ∧ ItemsWhole rest

/-- Whether the values of all members are such values. -/
def MembersWhole : List (String × Value) → Prop
  | [] => True
  | (_, v) :: rest => v.IsWhole ∧ MembersWhole rest

end

theorem itemsWhole_iff {items : List Value} : ItemsWhole items ↔ ∀ v ∈ items, v.IsWhole := by
  induction items with
  | nil => simp [ItemsWhole]
  | cons v rest ih => simp [ItemsWhole, ih]

theorem membersWhole_iff {members : List (String × Value)} :
    MembersWhole members ↔ ∀ m ∈ members, m.2.IsWhole := by
  induction members with
  | nil => simp [MembersWhole]
  | cons m rest ih => simp [MembersWhole, ih]

namespace Source.Expecting

open Value (itemChars memberChars)

/-- Whether a value may begin here, and is read within what is open then. -/
def Awaits (e : Expecting) (within : List Open) : Prop :=
  ∀ t e', begin? within t = some e' → e.step? t = some e'

/-- Whether a key may stand here, behind some members. -/
def AwaitsKey (e : Expecting) (before : List (Option String × Source)) (within : List Open) :
    Prop :=
  ∀ s, e.step? (.text s) = some (.colon before (some s) within)

theorem awaits_value (within : List Open) : (value within).Awaits within :=
  fun _ _ h => h

theorem awaits_firstItem (within : List Open) :
    (firstItem within).Awaits (.array [] :: within) := by
  intro t e' h
  cases t <;> simp_all [begin?, step?]

theorem awaitsKey_firstKey (within : List Open) : (firstKey within).AwaitsKey [] within :=
  fun _ => rfl

theorem awaitsKey_key (before : List (Option String × Source)) (within : List Open) :
    (key before within).AwaitsKey before within :=
  fun _ => rfl

theorem run_cons {e e' : Expecting} {t : Token} (h : e.step? t = some e') (rest : List Token) :
    e.run (t :: rest) = e'.run rest := by
  simp [run, h]

/-- A character that is a token by itself. -/
theorem run_mark {e e' : Expecting} {c : Char} {t : Token}
    (hc : Scan.begin c = ([t], some .between)) (h : e.step? t = some e') (rest : List Char) :
    e.run (Scan.between.run (c :: rest)) = e'.run (Scan.between.run rest) := by
  simp [Scan.run, Scan.step, hc, run_cons h]

/-- A key and the colon behind it. -/
theorem run_keyChars {e : Expecting} {before : List (Option String × Source)} {within : List Open}
    (he : e.AwaitsKey before within) (key : String) (rest : List Char) :
    e.run (Scan.between.run (textChars key ++ ':' :: rest)) =
      (value (.object before (some key) :: within)).run (Scan.between.run rest) := by
  rw [Scan.run_textChars, run_cons (he key)]
  exact run_mark rfl rfl rest

-- A value may hold arrays and objects at any depth, so the three are proved together.
mutual

/-- The text of a value is read as that value, and what follows it is left. -/
theorem run_chars : ∀ v : Value, v.IsWhole → ∀ {e : Expecting} {within : List Open},
    e.Awaits within → ∀ {rest : List Char}, IsDelimited rest →
    e.run (Scan.between.run (v.chars ++ rest)) =
      (behind v.toSource within).run (Scan.between.run rest)
  | .null, _, e, within, he, rest, _ => run_cons (he .null _ rfl) _
  | .bool true, _, e, within, he, rest, _ => run_cons (he (.bool true) _ rfl) _
  | .bool false, _, e, within, he, rest, _ => run_cons (he (.bool false) _ rfl) _
  | .number (.natural n), _, e, within, he, rest, hrest => by
    rw [Value.chars, Number.chars, Scan.run_digits n hrest]
    exact run_cons (he (.number (.natural n)) _ rfl) _
  | .number (.negative _), hv, _, _, _, _, _ => hv.elim
  | .number (.real _), hv, _, _, _, _, _ => hv.elim
  | .text s, _, e, within, he, rest, _ => by
    rw [Value.chars, Scan.run_textChars]
    exact run_cons (he (.text s) _ rfl) _
  | .array [], _, e, within, he, rest, _ => by
    have hopen := run_mark (c := '[') rfl (he .openBracket _ rfl) (']' :: rest)
    exact hopen.trans (run_mark rfl rfl rest)
  | .array (v :: items), hv, e, within, he, rest, _ => by
    have hopen := run_mark (c := '[') rfl (he .openBracket _ rfl)
      (itemChars (v :: items) ++ ']' :: rest)
    have hitems := run_itemChars (v :: items) hv (by simp) (awaits_firstItem within) rest
    simpa [Value.chars, Value.toSource] using hopen.trans hitems
  | .object [], _, e, within, he, rest, _ => by
    have hopen := run_mark (c := '\x7b') rfl (he .openBrace _ rfl) ('\x7d' :: rest)
    exact hopen.trans (run_mark rfl rfl rest)
  | .object (m :: members), hv, e, within, he, rest, _ => by
    have hopen := run_mark (c := '\x7b') rfl (he .openBrace _ rfl)
      (memberChars (m :: members) ++ '\x7d' :: rest)
    have hmembers := run_memberChars (m :: members) hv (by simp) (awaitsKey_firstKey within) rest
    simpa [Value.chars, Value.toSource] using hopen.trans hmembers

/-- The text of items, and the bracket behind them. -/
theorem run_itemChars : ∀ items : List Value, ItemsWhole items → items ≠ [] →
    ∀ {e : Expecting} {before : List Source} {within : List Open},
    e.Awaits (.array before :: within) → ∀ rest : List Char,
    e.run (Scan.between.run (itemChars items ++ ']' :: rest)) =
      (behind (.array (before.reverse ++ itemSources items) .closed) within).run
        (Scan.between.run rest)
  | [], _, hsome, _, _, _, _, _ => absurd rfl hsome
  | [v], hv, _, e, before, within, he, rest => by
    have hvalue := run_chars v hv.1 he (isDelimited_cons (.inr (.inl rfl)) rest)
    have hclosed := hvalue.trans (run_mark rfl rfl rest)
    simpa [itemChars, itemSources, Open.close] using hclosed
  | v :: w :: items, hv, _, e, before, within, he, rest => by
    have hvalue := run_chars v hv.1 he
      (isDelimited_cons (.inl rfl) (itemChars (w :: items) ++ ']' :: rest))
    have hcomma := hvalue.trans (run_mark rfl rfl _)
    have hitems := run_itemChars (w :: items) hv.2 (by simp)
      (awaits_value (.array (v.toSource :: before) :: within)) rest
    simpa [itemChars, itemSources] using hcomma.trans hitems

/-- The text of members, and the bracket behind them. -/
theorem run_memberChars : ∀ members : List (String × Value), MembersWhole members → members ≠ [] →
    ∀ {e : Expecting} {before : List (Option String × Source)} {within : List Open},
    e.AwaitsKey before within → ∀ rest : List Char,
    e.run (Scan.between.run (memberChars members ++ '\x7d' :: rest)) =
      (behind (.object (before.reverse ++ memberSources members) .closed) within).run
        (Scan.between.run rest)
  | [], _, hsome, _, _, _, _, _ => absurd rfl hsome
  | [(k, v)], hv, _, e, before, within, he, rest => by
    have hkey := run_keyChars he k (v.chars ++ '\x7d' :: rest)
    have hvalue := run_chars v hv.1 (awaits_value (.object before (some k) :: within))
      (isDelimited_cons (.inr (.inr rfl)) rest)
    have hclosed := hkey.trans (hvalue.trans (run_mark rfl rfl rest))
    simpa [memberChars, memberSources, Open.close] using hclosed
  | (k, v) :: m :: members, hv, _, e, before, within, he, rest => by
    have hkey := run_keyChars he k
      (v.chars ++ ',' :: (memberChars (m :: members) ++ '\x7d' :: rest))
    have hvalue := run_chars v hv.1 (awaits_value (.object before (some k) :: within))
      (isDelimited_cons (.inl rfl) (memberChars (m :: members) ++ '\x7d' :: rest))
    have hcomma := hkey.trans (hvalue.trans (run_mark rfl rfl _))
    have hmembers := run_memberChars (m :: members) hv.2 (by simp)
      (awaitsKey_key ((some k, v.toSource) :: before) within) rest
    simpa [memberChars, memberSources] using hcomma.trans hmembers

end

end Source.Expecting

/-- A value is read back from its compact text. -/
theorem Document.ofText_render {v : Value} (h : v.IsWhole) :
    Document.ofText v.render = ⟨v.toSource, true⟩ := by
  have hend : IsDelimited [] := by simp [IsDelimited]
  have hvalue := Source.Expecting.run_chars v h (Source.Expecting.awaits_value []) hend
  rw [List.append_nil] at hvalue
  unfold ofText tokens Value.render
  rw [String.toList_ofList]
  exact hvalue

/-- What is read from a written value is read from its text. -/
theorem Document.read_ofText_render {α : Type} {read : Source → Reading α} {v : Value} {a : α}
    (h : v.IsWhole) (hread : read v.toSource = .ok a) :
    (Document.ofText v.render).read read = .ok a := by
  simp [ofText_render h, Document.read, hread]

theorem Value.ofText?_render {v : Value} (h : v.IsWhole) :
    Value.ofText? v.render = v.toSource.value? depthLimit := by
  simp [ofText?, Document.ofText_render h, Document.value?]

end Json

end WorkerRoster
