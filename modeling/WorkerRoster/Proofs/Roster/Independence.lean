import Mathlib.Logic.Relation
import WorkerRoster.Proofs.Delivery
import WorkerRoster.Proofs.Roster.Fate
import WorkerRoster.Proofs.Roster.Recollection

/-!
# Workers Do Not Interfere

All workers are kept in one list, which is searched, overwritten, shifted and emptied for any of
them. Still nobody can tell from one worker what the others do: the roster deals with it as if the
others were not there.

The argument has the two usual conditions. A sighting that does not concern a worker changes nothing
that is known of it and says nothing about it. A sighting that concerns it does and says the same in
any two rosters that agree on it. So a history can be purged of everything that does not concern the
worker, and histories that are the same after that come to the same.

## Main statements

- `Roster.AgreeOn.meet`, `Roster.AgreeOn.meet_left`: the two conditions, on what is known
- `Roster.along_purge`: what an observer of one worker notices of a history, it notices of the
  purged one
- `Roster.others_do_not_interfere`: histories that are the same for a worker come to the same for it
-/

set_option autoImplicit false

namespace WorkerRoster

namespace Sighting

/-- Whether a worker is concerned: it is the one that is seen, or everybody is gone. -/
def concerns (w : WorkerId) : Sighting → Bool
  | .seen id _ => id = w
  | .cleared => true

/-- Two histories that differ in the order of two observations of different workers. -/
inductive Swaps : List Sighting → List Sighting → Prop where
  | swap (front back : List Sighting) {a b : WorkerId} (apart : a ≠ b) (s t : Status) :
      Swaps (front ++ .seen a s :: .seen b t :: back) (front ++ .seen b t :: .seen a s :: back)

/-- What concerns a worker is in the same order, however often others change places. -/
theorem filter_concerns_of_swaps {h h' : List Sighting} (hswaps : Relation.ReflTransGen Swaps h h')
    (w : WorkerId) : h.filter (concerns w) = h'.filter (concerns w) := by
  induction hswaps with
  | refl => rfl
  | tail _ hswap ih =>
    rw [ih]
    cases hswap with
    | @swap front back a b apart s t =>
      -- at most one of the two is the worker
      by_cases ha : a = w
      · have hb : b ≠ w := fun hb => apart (ha.trans hb.symm)
        simp [List.filter_cons, concerns, hb]
      · simp [List.filter_cons, concerns, ha]

end Sighting

namespace Roster

open Sighting

/-! ## What comes of a history -/

/-- What is to be done about a sighting. -/
def effectsOf (r : Roster) : Sighting → List Effect
  | .seen id status => (r.track id status).effects
  | .cleared => r.dismiss.effects

/-- What the observation of a worker did, if it is the one that is seen. -/
def outcomeFor (w : WorkerId) (r : Roster) : Sighting → List Outcome
  | .seen id status => if id = w then [(r.track id status).outcome] else []
  | .cleared => []

/-- What comes of the sightings of a history one after the other, each before the roster that the
    ones before have left. -/
def along {α : Type} (f : Roster → Sighting → List α) (r : Roster) : List Sighting → List α
  | [] => []
  | s :: rest => f r s ++ along f (r.meet s) rest

theorem along_append {α : Type} (f : Roster → Sighting → List α) (r : Roster)
    (h later : List Sighting) :
    r.along f (h ++ later) = r.along f h ++ (h.foldl meet r).along f later := by
  induction h generalizing r with
  | nil => rfl
  | cons s rest ih => rw [List.cons_append, along, ih, along, List.append_assoc, List.foldl_cons]

/-- What is announced along a history is what is announced of one sighting after the other. -/
theorem announcements_along (r : Roster) (h : List Sighting) :
    announcements (r.along effectsOf h) =
      r.along (fun r s => announcements (r.effectsOf s)) h := by
  induction h generalizing r with
  | nil => rfl
  | cons s rest ih => rw [along, announcements_append, ih, along]

theorem about_along (w : WorkerId) (r : Roster) (h : List Sighting)
    (f : Roster → Sighting → List Announcement) :
    about w (r.along f h) = r.along (fun r s => about w (f r s)) h := by
  induction h generalizing r with
  | nil => rfl
  | cons s rest ih =>
    rw [along, along, ← ih]
    exact List.filter_append _ _

/-! ## Rosters that agree on a worker -/

/-- Whether two rosters know the same of a worker. -/
structure AgreeOn (w : WorkerId) (r r' : Roster) : Prop where
  known : r.find? w = r'.find? w
  distinct : r.IsDistinct
  distinct' : r'.IsDistinct

variable {w : WorkerId} {r r' : Roster}

theorem AgreeOn.contains_eq (h : AgreeOn w r r') : r.contains w = r'.contains w := by
  rw [← isSome_find?, ← isSome_find?, h.known]

theorem IsDistinct.meet (h : r.IsDistinct) (s : Sighting) : (r.meet s).IsDistinct := by
  cases s with
  | seen id status => exact h.track id status
  | cleared => exact isDistinct_empty

/-- Nothing that is known of a worker is changed by a sighting that does not concern it. -/
theorem find?_meet_of_not_concerns {s : Sighting} (hs : s.concerns w = false) (r : Roster) :
    (r.meet s).find? w = r.find? w := by
  cases s with
  | seen id status =>
    have hne : w ≠ id := by simpa [concerns, eq_comm] using hs
    exact find?_track_of_ne hne r status
  | cleared => cases hs

theorem find?_track_self (h : r.IsDistinct) (status : Status) :
    (r.track w status).roster.find? w =
      if status = .undefined then none else some ⟨w, status⟩ := by
  rw [roster_track]
  split
  · exact find?_of_not_contains (contains_erase_self h w)
  · exact find?_put_self r w status

/-- Rosters that agree on a worker agree on it after any sighting. -/
theorem AgreeOn.meet (h : AgreeOn w r r') (s : Sighting) : AgreeOn w (r.meet s) (r'.meet s) := by
  refine ⟨?_, h.distinct.meet s, h.distinct'.meet s⟩
  cases hs : s.concerns w with
  | false =>
    rw [find?_meet_of_not_concerns hs, find?_meet_of_not_concerns hs]
    exact h.known
  | true =>
    -- what is known of it afterwards does not depend on where it stands
    cases s with
    | seen id status =>
      obtain rfl : id = w := by simpa [concerns] using hs
      show (r.track id status).roster.find? id = (r'.track id status).roster.find? id
      rw [find?_track_self h.distinct, find?_track_self h.distinct']
    | cleared => rfl

/-- Rosters that agree on a worker still agree when one meets a sighting that does not concern
    it. -/
theorem AgreeOn.meet_left (h : AgreeOn w r r') {s : Sighting} (hs : s.concerns w = false) :
    AgreeOn w (r.meet s) r' :=
  ⟨(find?_meet_of_not_concerns hs r).trans h.known, h.distinct.meet s, h.distinct'⟩

/-! ## Purging a history -/

/-- What only an observer of one worker notices: nothing of a sighting that does not concern it, and
    the same of one that does in any two rosters that agree on it. -/
structure IsPrivate {α : Type} (w : WorkerId) (f : Roster → Sighting → List α) : Prop where
  silent : ∀ r s, s.concerns w = false → f r s = []
  same : ∀ {r r'} s, AgreeOn w r r' → s.concerns w = true → f r s = f r' s

theorem AgreeOn.foldl_purge (hagree : AgreeOn w r r') (h : List Sighting) :
    AgreeOn w (h.foldl Roster.meet r) ((h.filter (concerns w)).foldl Roster.meet r') := by
  induction h generalizing r r' with
  | nil => exact hagree
  | cons s rest ih =>
    cases hs : s.concerns w with
    | false =>
      rw [List.filter_cons_of_neg (by simp [hs])]
      exact ih (hagree.meet_left hs)
    | true =>
      rw [List.filter_cons_of_pos hs]
      exact ih (hagree.meet s)

/-- What an observer of one worker notices of a history, it notices of the purged one. -/
theorem along_purge {α : Type} {f : Roster → Sighting → List α} (hf : IsPrivate w f)
    (hagree : AgreeOn w r r') (h : List Sighting) :
    r.along f h = r'.along f (h.filter (concerns w)) := by
  -- the induction is on the longer history: the rosters agree all the way, though the second one
  -- does not move with every sighting
  induction h generalizing r r' with
  | nil => rfl
  | cons s rest ih =>
    cases hs : s.concerns w with
    | false =>
      rw [List.filter_cons_of_neg (by simp [hs]), along, hf.silent r s hs, List.nil_append]
      exact ih (hagree.meet_left hs)
    | true =>
      rw [List.filter_cons_of_pos hs, along, along, hf.same s hagree hs, ih (hagree.meet s)]

/-! ## What is noticed of a worker -/

/-- What an observation does depends on whether the worker is known. -/
theorem outcome_track (r : Roster) (id : WorkerId) (status : Status) :
    (r.track id status).outcome =
      if status = .undefined then (if r.contains id then .removed else .ignored)
      else (if r.contains id then .updated else .added) := by
  by_cases hstatus : status = .undefined
  · rw [track_of_isUndefined r id (Status.isUndefined_iff.2 hstatus), if_pos hstatus]
    split <;> rfl
  · -- the status is set, in place or at the end
    unfold track
    rw [if_neg (mt Status.isUndefined_iff.1 hstatus), if_neg hstatus, ← isSome_find?]
    unfold put
    cases r.find? id <;> rfl

/-- Its outcomes are noticed by an observer of a worker alone. -/
theorem isPrivate_outcomeFor (w : WorkerId) : IsPrivate w (outcomeFor w) where
  silent r s hs := by
    cases s with
    | seen id status => exact if_neg (by simpa [concerns] using hs)
    | cleared => rfl
  same s hagree hs := by
    cases s with
    | seen id status =>
      obtain rfl : id = w := by simpa [concerns] using hs
      simp only [outcomeFor, outcome_track, hagree.contains_eq]
    | cleared => rfl

/-- When everybody is gone, a worker is said farewell just if it was known. -/
theorem about_dismiss (h : r.IsDistinct) (w : WorkerId) :
    about w (announcements r.dismiss.effects) = if r.contains w then [.offline w] else [] := by
  have hfate := fate_dismiss h w none
  rw [announcements_dismiss, ← isSome_find?]
  generalize r.find? w = known, about w (r.workers.map (.offline ·.id)) = as at hfate ⊢
  cases hfate with
  | stays => rfl
  | goes _ => rfl

/-- What is announced about a worker is noticed by an observer of it alone. -/
theorem isPrivate_about (w : WorkerId) :
    IsPrivate w fun r s => about w (announcements (r.effectsOf s)) where
  silent r s hs := by
    cases s with
    | seen id status =>
      have hne : id ≠ w := by simpa [concerns] using hs
      exact about_other hne fun a => worker_of_mem_announcements_track
    | cleared => cases hs
  same s hagree hs := by
    cases s with
    | seen id status =>
      obtain rfl : id = w := by simpa [concerns] using hs
      simp only [effectsOf, announcements_track, hagree.contains_eq]
    | cleared =>
      simp only [effectsOf]
      rw [about_dismiss hagree.distinct, about_dismiss hagree.distinct', hagree.contains_eq]

/-! ## Histories that are the same for a worker -/

/-- Whether two histories come to the same for a worker: it is known in the same way in the end, the
    observations of it did the same, and the same was offered about it, whatever buses there are. -/
structure AlikeFor (w : WorkerId) (h h' : List Sighting) : Prop where
  known : (ofSightings h).find? w = (ofSightings h').find? w
  outcomes : empty.along (outcomeFor w) h = empty.along (outcomeFor w) h'
  announced : ∀ {β β' : Type} (bus : Bus β) (bus' : Bus β') (state : β) (state' : β'),
    about w (offered (bus.performAll state (empty.along effectsOf h)).2) =
      about w (offered (bus'.performAll state' (empty.along effectsOf h')).2)

/-- Histories that are the same when they are purged come to the same for a worker. -/
theorem AlikeFor.of_purged {w : WorkerId} {h h' : List Sighting}
    (hpurged : h.filter (concerns w) = h'.filter (concerns w)) : AlikeFor w h h' := by
  have hempty : AgreeOn w empty empty := ⟨rfl, isDistinct_empty, isDistinct_empty⟩
  -- whatever is noticed of one history is noticed of what both are purged to
  have halong : ∀ {α : Type} {f : Roster → Sighting → List α}, IsPrivate w f →
      empty.along f h = empty.along f h' := by
    intro α f hf
    rw [along_purge hf hempty h, along_purge hf hempty h', hpurged]
  refine ⟨?known, halong (isPrivate_outcomeFor w), ?announced⟩
  case known =>
    have hknown := (hempty.foldl_purge h).known
    rw [hpurged] at hknown
    exact hknown.trans (hempty.foldl_purge h').known.symm
  case announced =>
    intro β β' bus bus' state state'
    rw [bus.offered_performAll, bus'.offered_performAll, announcements_along, announcements_along,
      about_along, about_along]
    exact halong (isPrivate_about w)

/-- Workers do not interfere. Histories that have the same observations of a worker, and the same
    farewells to everybody among them, come to the same for it; and so do histories in which
    observations of different workers have changed places. -/
theorem others_do_not_interfere (w : WorkerId) (h h' : List Sighting) :
    (h.filter (concerns w) = h'.filter (concerns w) → AlikeFor w h h') ∧
      (Relation.ReflTransGen Swaps h h' → AlikeFor w h h') :=
  ⟨.of_purged, fun hswaps => .of_purged (filter_concerns_of_swaps hswaps w)⟩

/-- A worker stands behind another one that goes, everybody is gone, and it comes back to stand
    before a third. To the worker this is all the same as being there alone. -/
theorem others_do_not_interfere_alone :
    let h : List Sighting :=
      [.seen ⟨"v"⟩ .idle, .seen ⟨"w"⟩ .idle, .seen ⟨"v"⟩ .undefined, .cleared, .seen ⟨"w"⟩ .busy,
        .seen ⟨"u"⟩ .busy, .seen ⟨"w"⟩ .idle]
    let alone : List Sighting :=
      [.seen ⟨"w"⟩ .idle, .cleared, .seen ⟨"w"⟩ .busy, .seen ⟨"w"⟩ .idle]
    let swapped : List Sighting :=
      [.seen ⟨"v"⟩ .idle, .seen ⟨"w"⟩ .idle, .seen ⟨"v"⟩ .undefined, .cleared, .seen ⟨"u"⟩ .busy,
        .seen ⟨"w"⟩ .busy, .seen ⟨"w"⟩ .idle]
    AlikeFor ⟨"w"⟩ h alone ∧ AlikeFor ⟨"w"⟩ h swapped ∧ AlikeFor ⟨"u"⟩ h swapped ∧
      (ofSightings h).workers ≠ (ofSightings swapped).workers ∧
      (ofSightings h).find? ⟨"w"⟩ = some ⟨⟨"w"⟩, .idle⟩ ∧
      empty.along (outcomeFor ⟨"w"⟩) h = [.added, .added, .updated] ∧
      about ⟨"w"⟩ (announcements (empty.along effectsOf h)) =
        [.availability ⟨"w"⟩ true, .offline ⟨"w"⟩, .availability ⟨"w"⟩ false,
          .availability ⟨"w"⟩ true] := by
  intro h alone swapped
  have hswap : Relation.ReflTransGen Swaps h swapped :=
    .single (.swap [_, _, _, _] [_] (by decide) _ _)
  exact ⟨(others_do_not_interfere ⟨"w"⟩ h alone).1 (by decide),
    (others_do_not_interfere ⟨"w"⟩ h swapped).2 hswap,
    (others_do_not_interfere ⟨"u"⟩ h swapped).2 hswap,
    by decide, by decide, by decide, by decide⟩

end Roster

end WorkerRoster
