import WorkerRoster.Text.Ranges

/-!
# Blank Characters and Trimming

A character is blank when it has the Unicode property `White_Space`. Trimming takes the blank
characters off both ends of a text; a text with nothing left is blank.
-/

set_option autoImplicit false

namespace WorkerRoster.Text

/-- The code points with `White_Space`: 25 of them, in ten ranges. -/
def blankRanges : List (Nat × Nat) :=
  [(0x9, 0xd), (0x20, 0x20), (0x85, 0x85), (0xa0, 0xa0), (0x1680, 0x1680), (0x2000, 0x200a),
   (0x2028, 0x2029), (0x202f, 0x202f), (0x205f, 0x205f), (0x3000, 0x3000)]

/-- Whether a character is white space. -/
def isBlankChar (c : Char) : Bool :=
  inRanges blankRanges c

/-- Drop the blank characters at both ends. -/
def trimChars (cs : List Char) : List Char :=
  ((cs.dropWhile isBlankChar).reverse.dropWhile isBlankChar).reverse

/-- Drop the blank characters at both ends of a text. -/
def trim (s : String) : String :=
  String.ofList (trimChars s.toList)

/-- Whether a text holds nothing but blank characters. -/
def isBlank (s : String) : Bool :=
  s.toList.all isBlankChar

/-! ## What is left -/

/-- The characters that are white space to core are blank. -/
theorem isBlankChar_of_isWhitespace {c : Char} (h : c.isWhitespace = true) :
    isBlankChar c = true := by
  simp only [Char.isWhitespace, Bool.or_eq_true, decide_eq_true_eq] at h
  rcases h with ((rfl | rfl) | rfl) | rfl <;> decide

/-- Everything is dropped just if all of it is blank. -/
private theorem dropBlank_eq_nil_iff (cs : List Char) :
    cs.dropWhile isBlankChar = [] ↔ ∀ c ∈ cs, isBlankChar c = true := by
  induction cs with
  | nil => simp
  | cons c rest ih => by_cases h : isBlankChar c = true <;> simp [h, ih]

/-- What is not dropped begins with a character that is not blank. -/
private theorem head_dropBlank {cs : List Char} {c : Char} {rest : List Char}
    (h : cs.dropWhile isBlankChar = c :: rest) : isBlankChar c = false := by
  induction cs with
  | nil => simp at h
  | cons d ds ih =>
    by_cases hd : isBlankChar d = true
    · exact ih (by simpa [hd] using h)
    · rw [List.dropWhile_cons, if_neg hd, List.cons.injEq] at h
      rw [← h.1]
      exact Bool.eq_false_iff.2 hd

/-- Nothing is left of characters just if all of them are blank. -/
theorem trimChars_eq_nil_iff (cs : List Char) :
    trimChars cs = [] ↔ ∀ c ∈ cs, isBlankChar c = true := by
  unfold trimChars
  rw [List.reverse_eq_nil_iff, dropBlank_eq_nil_iff]
  simp only [List.mem_reverse]
  match hd : cs.dropWhile isBlankChar with
  | [] => simpa using (dropBlank_eq_nil_iff cs).1 hd
  | c :: rest =>
    have hc := head_dropBlank hd
    have hmem : c ∈ cs := (List.dropWhile_suffix isBlankChar).subset (by simp [hd])
    exact ⟨fun h => by simp [hc] at h, fun h => by simp [h c hmem] at hc⟩

/-- A text is blank just if nothing is left of it. -/
theorem trim_eq_empty_iff (s : String) : trim s = "" ↔ isBlank s = true := by
  rw [trim, ← String.toList_inj]
  simp [isBlank, trimChars_eq_nil_iff]

/-- What is left of a text that is not blank is not blank either. -/
theorem isBlank_trim (s : String) : isBlank (trim s) = isBlank s := by
  by_cases h : isBlank s = true
  · rw [(trim_eq_empty_iff s).2 h, h]
    rfl
  · have hne : trimChars s.toList ≠ [] := by
      rw [Ne, trimChars_eq_nil_iff]
      simpa [isBlank] using h
    rw [Bool.eq_false_iff.2 h, Bool.eq_false_iff]
    intro hblank
    match hd : (s.toList.dropWhile isBlankChar).reverse.dropWhile isBlankChar with
    | [] => exact hne (by simp [trimChars, hd])
    | c :: rest =>
      have hc := head_dropBlank hd
      have hall : ∀ d ∈ trimChars s.toList, isBlankChar d = true := by
        simpa [isBlank, trim] using hblank
      simp [hall c (by simp [trimChars, hd])] at hc

end WorkerRoster.Text
