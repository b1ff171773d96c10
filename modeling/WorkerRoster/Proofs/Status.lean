import WorkerRoster.Presence
import WorkerRoster.Proofs.Text.Trimming

/-!
# Statuses and Their Words

A status is announced by a word and read from one. A word that means nothing is kept as it was
written, blanks and all, though the blanks did not count when it was looked at. So a status that was
read is always read again as what it was; and one that was not read can be taken for another, if the
word kept in it is a spelling of a known one.

In a presence it is the first extension of its names that counts, so nothing behind it makes a
difference, and nothing of other names before it.

## Main statements

- `Status.ofWord_word_iff`: which statuses their own words stand for
- `Presence.status?_between`: the status that is read among other extensions
- `Status.read_back`: words and presences, read again
-/

set_option autoImplicit false

namespace WorkerRoster

namespace Status

/-! ## Words -/

/-- The words that mean something. -/
def knownWords : List String := ["idle", "busy", "undefined"]

/-- Whether a status keeps a word as meaningless that means something. -/
def IsMistaken : Status → Prop
  | .unrecognized raw => ∃ word ∈ knownWords, Text.Spells raw word
  | .idle | .busy | .undefined => False

theorem isMistaken_unrecognized_iff (raw : String) :
    (unrecognized raw).IsMistaken ↔
      Text.sameLetters (Text.trim raw) "idle" = true ∨
        Text.sameLetters (Text.trim raw) "busy" = true ∨
          Text.sameLetters (Text.trim raw) "undefined" = true := by
  simp only [IsMistaken, knownWords, List.mem_cons, List.not_mem_nil, or_false, exists_eq_or_imp,
    exists_eq_left]
  rw [Text.spells_iff raw (by decide), Text.spells_iff raw (by decide),
    Text.spells_iff raw (by decide)]

/-- A word is kept just if it means nothing. -/
theorem ofWord_eq_unrecognized_iff (raw : String) :
    ofWord raw = unrecognized raw ↔ ¬ (unrecognized raw).IsMistaken := by
  rw [isMistaken_unrecognized_iff]
  unfold ofWord
  by_cases hidle : Text.sameLetters (Text.trim raw) "idle" = true
  · simp [hidle]
  by_cases hbusy : Text.sameLetters (Text.trim raw) "busy" = true
  · simp [hidle, hbusy]
  by_cases hundefined : Text.sameLetters (Text.trim raw) "undefined" = true
  · simp [hidle, hbusy, hundefined]
  · simp [hidle, hbusy, hundefined]

/-- The word of a status stands for it, unless the status keeps a word that means something. -/
theorem ofWord_word_iff (s : Status) : ofWord s.word = s ↔ ¬ s.IsMistaken := by
  cases s with
  | idle | busy | undefined => exact iff_of_true (by decide) not_false
  | unrecognized raw => exact ofWord_eq_unrecognized_iff raw

/-- A status that is read from a word is a known one, or keeps the word. -/
theorem ofWord_cases (raw : String) :
    ofWord raw = idle ∨ ofWord raw = busy ∨ ofWord raw = undefined ∨
      ofWord raw = unrecognized raw := by
  unfold ofWord
  grind

/-- A status that was read is read again as what it was. -/
theorem ofWord_word_ofWord (raw : String) : ofWord (ofWord raw).word = ofWord raw := by
  rcases ofWord_cases raw with h | h | h | h
  case inl | inr.inl | inr.inr.inl =>
    rw [h]
    decide
  case inr.inr.inr =>
    rw [h, word, h]

end Status

/-! ## Presences -/

namespace Presence

/-- Extensions are added behind those that are there. -/
theorem foldl_add (p : Presence) (es : List Extension) :
    es.foldl add p = ⟨p.extensions ++ es⟩ := by
  induction es generalizing p with
  | nil => simp
  | cons e rest ih => rw [List.foldl_cons, ih, add, List.append_assoc, List.singleton_append]

theorem attribute?_announcing (s : Status) :
    (Extension.announcing s).attribute? statusAttribute = some s.word :=
  Keyed.lookup_put_self _ _ _

/-- The status that is read is the first one announced, whatever is behind it, and whatever is
    before it under other names. -/
theorem status?_between {front : List Extension}
    (h : ∀ e ∈ front, e.element ≠ statusElement ∨ e.space ≠ statusSpace) (s : Status)
    (back : List Extension) :
    (⟨front ++ Extension.announcing s :: back⟩ : Presence).status? =
      some (Status.ofWord s.word) := by
  have hfront : front.find? (·.isNamed statusElement statusSpace) = none := by
    refine List.find?_eq_none.2 fun e he => ?_
    rcases h e he with hne | hne <;> simp [Extension.isNamed, hne]
  have hfound : (front ++ Extension.announcing s :: back).find?
      (·.isNamed statusElement statusSpace) = some (Extension.announcing s) := by
    rw [List.find?_append, hfront]
    rfl
  unfold status? extension?
  rw [hfound, Option.map_some, attribute?_announcing]

end Presence

/-- What was read from a word is read again from its own word. A presence that announces a status
    is read as announcing it, unless the status keeps a word that means something; and so is one
    with any extensions behind that announcement, and any of other names before it. -/
theorem Status.read_back :
    (∀ raw, ofWord (ofWord raw).word = ofWord raw) ∧
    ∀ s : Status, ((Presence.announcing s).status? = some s ↔ ¬ s.IsMistaken) ∧
      ∀ front back : List Extension,
        (∀ e ∈ front, e.element ≠ statusElement ∨ e.space ≠ statusSpace) →
        ((back.foldl Presence.add ⟨front ++ (Presence.announcing s).extensions⟩).status? = some s ↔
          ¬ s.IsMistaken) := by
  refine ⟨ofWord_word_ofWord, fun s => ?_⟩
  have hbetween : ∀ front back : List Extension,
      (∀ e ∈ front, e.element ≠ statusElement ∨ e.space ≠ statusSpace) →
      ((back.foldl Presence.add ⟨front ++ (Presence.announcing s).extensions⟩).status? = some s ↔
        ¬ s.IsMistaken) := by
    intro front back hfront
    rw [Presence.foldl_add, Presence.announcing, List.append_assoc, List.singleton_append,
      Presence.status?_between hfront, Option.some.injEq, ofWord_word_iff]
  exact ⟨hbetween [] [] nofun, hbetween⟩

/-- A status with blanks in its word is read between an extension of the same element and another
    announcement; one that keeps a known word is read as that. -/
theorem Status.read_back_paused :
    let front : List Extension := [⟨"urn:other", statusElement, [(statusAttribute, "idle")]⟩]
    let back : List Extension := [.announcing .busy]
    let among (s : Status) : Presence :=
      back.foldl Presence.add ⟨front ++ (Presence.announcing s).extensions⟩
    (among (.unrecognized " paused ")).status? = some (.unrecognized " paused ") ∧
      (among (.unrecognized "\u00a0Idle\t")).status? ≠ some (.unrecognized "\u00a0Idle\t") := by
  intro front back among
  have hfront : ∀ e ∈ front, e.element ≠ statusElement ∨ e.space ≠ statusSpace := by decide
  have hpaused := (read_back.2 (.unrecognized " paused ")).2 front back hfront
  have hidle := (read_back.2 (.unrecognized "\u00a0Idle\t")).2 front back hfront
  rw [isMistaken_unrecognized_iff] at hpaused hidle
  exact ⟨hpaused.2 (by decide), fun h => hidle.1 h (by decide)⟩

end WorkerRoster
