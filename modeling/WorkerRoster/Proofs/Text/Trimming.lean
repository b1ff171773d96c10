import Mathlib.Data.List.TakeWhile
import WorkerRoster.Text.Blank
import WorkerRoster.Text.Letters

/-!
# What Trimming Leaves

Trimming goes along a text from both ends. What it leaves can be said without going anywhere: the
text falls into blanks, a part that neither begins nor ends with a blank, and blanks again, and
there is only one such part. A text spells a word if that part is the word, in any case of its
letters.

## Main statements

- `Text.trim_eq_iff`: the part of a text that trimming leaves
- `Text.spells_iff`: the spellings of a word
-/

set_option autoImplicit false

namespace WorkerRoster.Text

/-- Whether characters neither begin nor end with a blank. -/
structure IsTrimmed (cs : List Char) : Prop where
  head : ∀ c ∈ cs.head?, isBlankChar c = false
  last : ∀ c ∈ cs.getLast?, isBlankChar c = false

/-- Whether a part of a text is what is left of it without the blanks at its ends. -/
def TrimsTo (s part : String) : Prop :=
  ∃ front back : String, s = front ++ part ++ back ∧ isBlank front ∧ isBlank back ∧
    IsTrimmed part.toList

variable {front part back : List Char}

theorem IsTrimmed.reverse (h : IsTrimmed part) : IsTrimmed part.reverse where
  head := by simpa using h.last
  last := by simpa using h.head

/-- The first character that is not dropped is not blank. -/
theorem isBlankChar_head?_dropWhile (cs : List Char) :
    ∀ c ∈ (cs.dropWhile isBlankChar).head?, isBlankChar c = false := by
  intro c hc
  have hhead := List.head?_dropWhile_not isBlankChar cs
  rw [Option.mem_def.1 hc] at hhead
  exact hhead

theorem dropWhile_append_of_blank (hfront : ∀ c ∈ front, isBlankChar c = true)
    (hpart : part ≠ []) (trimmed : IsTrimmed part) (rest : List Char) :
    (front ++ (part ++ rest)).dropWhile isBlankChar = part ++ rest := by
  obtain ⟨c, cs, rfl⟩ := List.exists_cons_of_ne_nil hpart
  have hc : isBlankChar c = false := trimmed.head c rfl
  rw [List.dropWhile_append_of_pos hfront, List.cons_append,
    List.dropWhile_cons_of_neg (by simp [hc])]

/-- What stands between blanks is left. -/
theorem trimChars_append (hfront : ∀ c ∈ front, isBlankChar c = true)
    (hback : ∀ c ∈ back, isBlankChar c = true) (trimmed : IsTrimmed part) :
    trimChars (front ++ part ++ back) = part := by
  by_cases hpart : part = []
  · -- all of it is blank
    subst hpart
    rw [trimChars_eq_nil_iff]
    intro c hc
    rcases List.mem_append.1 (by simpa using hc) with hc | hc
    · exact hfront c hc
    · exact hback c hc
  · -- the blanks in front are dropped, and then, from the other end, those behind
    have hdropFront : (front ++ (part ++ back)).dropWhile isBlankChar = part ++ back :=
      dropWhile_append_of_blank hfront hpart trimmed back
    have hdropBack : (back.reverse ++ (part.reverse ++ [])).dropWhile isBlankChar =
        part.reverse ++ [] :=
      dropWhile_append_of_blank (by simpa using hback) (by simpa using hpart) trimmed.reverse []
    rw [List.append_nil] at hdropBack
    unfold trimChars
    rw [List.append_assoc, hdropFront, List.reverse_append, hdropBack, List.reverse_reverse]

/-- Nothing but blanks is taken off, and none is left at the ends. -/
theorem exists_trimChars (cs : List Char) :
    ∃ front back, cs = front ++ trimChars cs ++ back ∧ (∀ c ∈ front, isBlankChar c = true) ∧
      (∀ c ∈ back, isBlankChar c = true) ∧ IsTrimmed (trimChars cs) := by
  have hsplit : cs.dropWhile isBlankChar = trimChars cs ++
      ((cs.dropWhile isBlankChar).reverse.takeWhile isBlankChar).reverse := by
    rw [trimChars, ← List.reverse_append, List.takeWhile_append_dropWhile, List.reverse_reverse]
  refine ⟨cs.takeWhile isBlankChar,
    ((cs.dropWhile isBlankChar).reverse.takeWhile isBlankChar).reverse, ?_, ?_, ?_, ?head, ?last⟩
  · rw [List.append_assoc, ← hsplit, List.takeWhile_append_dropWhile]
  · exact fun c hc => List.mem_takeWhile_imp hc
  · exact fun c hc => List.mem_takeWhile_imp (List.mem_reverse.1 hc)
  case head =>
    -- what is left begins as what was not dropped in front
    intro c hc
    refine isBlankChar_head?_dropWhile cs c ?_
    rw [hsplit, List.head?_append, Option.mem_def.1 hc]
    rfl
  case last =>
    -- its end is the beginning of what was not dropped from behind
    intro c hc
    rw [trimChars, List.getLast?_reverse] at hc
    exact isBlankChar_head?_dropWhile _ c hc

/-- The part of a text that trimming leaves: what stands between blanks at the ends, and neither
    begins nor ends with one itself. -/
theorem trim_eq_iff (s part : String) : trim s = part ↔ TrimsTo s part := by
  constructor
  · rintro rfl
    obtain ⟨front, back, hsplit, hfront, hback, trimmed⟩ := exists_trimChars s.toList
    refine ⟨String.ofList front, String.ofList back, ?_, ?_, ?_, ?_⟩
    · rw [← String.toList_inj]
      simpa [trim] using hsplit
    · simpa [isBlank] using hfront
    · simpa [isBlank] using hback
    · simpa [trim] using trimmed
  · rintro ⟨front, back, rfl, hfront, hback, trimmed⟩
    rw [trim, ← String.toList_inj]
    simp only [String.toList_append, String.toList_ofList]
    exact trimChars_append (by simpa [isBlank] using hfront) (by simpa [isBlank] using hback)
      trimmed

/-! ## The case of letters -/

/-- Lower case is what core takes it for, which leaves everything but ASCII capitals alone. -/
theorem lowerAscii_eq_toLower (c : Char) : lowerAscii c = c.toLower := by
  by_cases h : 'A' ≤ c ∧ c ≤ 'Z'
  · -- the 26 capitals, one by one
    have hcapitals : ∀ n ∈ List.range' 65 26, lowerAscii (.ofNat n) = (Char.ofNat n).toLower := by
      decide
    have hlow : 65 ≤ c.toNat := h.1
    have hhigh : c.toNat ≤ 90 := h.2
    rw [← Char.ofNat_toNat c]
    exact hcapitals c.toNat (List.mem_range'_1.2 ⟨hlow, by omega⟩)
  · have hnot : ¬ (c.val ≥ 'A'.val ∧ c.val ≤ 'Z'.val) := h
    have hsame : c.toLower = c := dif_neg hnot
    rw [lowerAscii, if_neg h, hsame]

/-- A text in lower case, letter by letter. -/
theorem toList_toLower (s : String) : s.toLower.toList = s.toList.map Char.toLower :=
  String.toList_map

/-- Texts agree up to the case of ASCII letters if they are the same in lower case. -/
theorem sameLetters_iff (s t : String) : sameLetters s t = true ↔ s.toLower = t.toLower := by
  have hlower : lowerAscii = Char.toLower := funext lowerAscii_eq_toLower
  unfold sameLetters
  rw [beq_iff_eq, hlower, ← String.toList_inj, toList_toLower, toList_toLower]

/-- Whether a text is a word but for blanks at its ends and the case of its ASCII letters. -/
def Spells (s word : String) : Prop :=
  ∃ part, TrimsTo s part ∧ part.toLower = word

/-- Spellings of a word in lower case are told by what trimming leaves of them. -/
theorem spells_iff (s : String) {word : String}
    (h : word.toList.map Char.toLower = word.toList) :
    Spells s word ↔ sameLetters (trim s) word = true := by
  have hword : word.toLower = word := by
    rw [← String.toList_inj, toList_toLower, h]
  rw [sameLetters_iff, hword]
  constructor
  · rintro ⟨part, hpart, hword⟩
    rw [(trim_eq_iff s part).2 hpart, hword]
  · exact fun hword => ⟨trim s, (trim_eq_iff s _).1 rfl, hword⟩

end WorkerRoster.Text
