import Mathlib.Data.List.Induction
import WorkerRoster.Tracking

/-!
# What a Roster Recalls

A roster is told one thing after the other: that a worker is seen with a status, or that everybody
is gone. Here it is shown that the roster is a function of that history alone: who is known, with
which status, in which place, and so also who is chosen.

Both sides are read off the history from its end. The status of a worker is the one that it was last
seen with since everybody was gone last. Its place is that of the sighting with which its present
stay began: the first one behind the last sighting after which it was gone.

## Main statements

- `Roster.Recalls.meet`: what a roster recalls of a history is kept by every further sighting
- `Roster.history_determines`: who is known, how, in which order, and who is chosen
-/

set_option autoImplicit false

namespace WorkerRoster

/-- What a roster is told. -/
inductive Sighting where
  /-- A worker is seen with a status. -/
  | seen (id : WorkerId) (status : Status)
  /-- Everybody is gone. -/
  | cleared
  deriving DecidableEq, Repr

namespace Roster

/-- The roster after a sighting. -/
def meet (r : Roster) : Sighting → Roster
  | .seen id status => (r.track id status).roster
  | .cleared => r.dismiss.roster

/-- The roster after a history, in which nobody is known at first. -/
def ofSightings (h : List Sighting) : Roster :=
  h.foldl meet empty

theorem ofSightings_concat (h : List Sighting) (s : Sighting) :
    ofSightings (h ++ [s]) = (ofSightings h).meet s := by
  simp [ofSightings]

end Roster

/-! ## Reading a history -/

namespace Sighting

/-- The status that a worker is seen with. -/
def status? (id : WorkerId) : Sighting → Option Status
  | .seen other status => if other = id then some status else none
  | .cleared => none

/-- Whether a worker is there then. -/
def finds (id : WorkerId) : Sighting → Bool
  | .seen other status => other = id && status ≠ .undefined
  | .cleared => false

/-- Whether a worker is gone then. -/
def misses (id : WorkerId) : Sighting → Bool
  | .seen other status => other = id && status = .undefined
  | .cleared => true

/-- The status that a worker was last seen with, since everybody was gone last. -/
def last? (id : WorkerId) (h : List Sighting) : Option Status :=
  (h.reverse.takeWhile (· ≠ .cleared)).findSome? (status? id)

/-- The place behind the last sighting after which a worker was gone. -/
def gap (id : WorkerId) (h : List Sighting) : Nat :=
  h.length - (h.reverse.takeWhile (!·.misses id)).length

/-- The place of the sighting with which the present stay of a worker began: the first one that
    found it there, behind the last one after which it was gone. -/
def since? (id : WorkerId) (h : List Sighting) : Option Nat :=
  ((h.drop (gap id h)).findIdx? (·.finds id)).map (gap id h + ·)

/-- Whether the stay of a worker began before that of another. -/
def IsOlder (h : List Sighting) (a b : WorkerId) : Prop :=
  ∃ p q, since? a h = some p ∧ since? b h = some q ∧ p < q

variable {id : WorkerId} {h : List Sighting}

theorem last?_concat_cleared : last? id (h ++ [.cleared]) = none := by
  simp [last?]

theorem last?_concat_seen (other : WorkerId) (status : Status) :
    last? id (h ++ [.seen other status]) = if other = id then some status else last? id h := by
  by_cases hid : other = id <;> simp [last?, status?, hid]

/-- A stay ends with a sighting after which the worker is gone, and begins with one that finds it
    there, unless it had begun before. -/
theorem since?_concat (s : Sighting) :
    since? id (h ++ [s]) =
      if s.misses id then none
      else (since? id h).or (if s.finds id then some h.length else none) := by
  have hle : (h.reverse.takeWhile (!·.misses id)).length ≤ h.length := by
    simpa using (List.takeWhile_sublist (l := h.reverse) (!·.misses id)).length_le
  by_cases hmiss : s.misses id = true
  · -- nothing is behind the gap
    have hgap : gap id (h ++ [s]) = (h ++ [s]).length := by simp [gap, hmiss]
    simp only [since?, hgap, List.drop_length, hmiss, if_true]
    rfl
  · have hgap : gap id (h ++ [s]) = gap id h := by
      simp only [gap, List.reverse_append, List.reverse_singleton, List.singleton_append,
        List.length_append, List.length_singleton]
      rw [List.takeWhile_cons_of_pos (by simpa using hmiss), List.length_cons]
      omega
    have hinside : gap id h ≤ h.length := Nat.sub_le _ _
    simp only [since?, hgap, if_neg hmiss]
    rw [List.drop_append_of_le_length hinside, List.findIdx?_append]
    -- the place of the new sighting is counted from the gap on
    have hlength : gap id h + (h.length - gap id h) = h.length := by omega
    cases (h.drop (gap id h)).findIdx? (·.finds id) with
    | some i => simp
    | none => cases hfind : s.finds id <;> simp [hfind, hlength, Nat.add_comm]

/-- No stay began with a sighting that is still to come. -/
theorem since?_lt_length {p : Nat} (hp : since? id h = some p) : p < h.length := by
  obtain ⟨i, hi, rfl⟩ := Option.map_eq_some_iff.1 hp
  obtain ⟨hlt, -⟩ := List.findIdx?_eq_some_iff_getElem.1 hi
  rw [List.length_drop] at hlt
  omega

theorem IsOlder.irrefl (a : WorkerId) : ¬ IsOlder h a a := by
  rintro ⟨p, q, hp, hq, hlt⟩
  rw [hp] at hq
  cases hq
  exact Nat.lt_irrefl p hlt

theorem IsOlder.asymm {a b : WorkerId} (hab : IsOlder h a b) : ¬ IsOlder h b a := by
  obtain ⟨p, q, hp, hq, hlt⟩ := hab
  rintro ⟨q', p', hq', hp', hlt'⟩
  rw [hq] at hq'
  rw [hp] at hp'
  cases hq'
  cases hp'
  omega

end Sighting

/-! ## What is recalled -/

namespace Roster

open Sighting

/-- What a roster recalls of a history. -/
structure Recalls (h : List Sighting) (r : Roster) : Prop where
  /-- A worker has the status that it was last seen with, if it is not gone. -/
  status : ∀ id, (r.find? id).map (·.status) = (last? id h).filter (· ≠ .undefined)
  /-- Who is known is on a stay. -/
  since : ∀ id, (since? id h).isSome = r.contains id
  /-- Whose stay began before that of another stands before it. -/
  order : r.ids.Pairwise (IsOlder h)

variable {h : List Sighting} {r : Roster}

theorem Recalls.isDistinct (hr : Recalls h r) : r.IsDistinct := by
  refine hr.order.imp ?_
  rintro a _ holder rfl
  exact IsOlder.irrefl a holder

/-- Stays that have begun are in the same order when more is told, as long as they go on. -/
theorem Recalls.order_concat (hr : Recalls h r) {s : Sighting} {ids : List WorkerId}
    (hids : ids.Sublist r.ids) (hgo : ∀ id ∈ ids, s.misses id = false) :
    ids.Pairwise (IsOlder (h ++ [s])) := by
  refine (hr.order.sublist hids).imp_of_mem ?_
  rintro a b ha hb ⟨p, q, hp, hq, hlt⟩
  refine ⟨p, q, ?_, ?_, hlt⟩
  · simp [since?_concat, hgo a ha, hp]
  · simp [since?_concat, hgo b hb, hq]

theorem Recalls.clear : Recalls (h ++ [.cleared]) empty where
  status id := by simp [last?_concat_cleared, find?, empty]
  since id := by simp [since?_concat, misses, contains, empty]
  order := List.Pairwise.nil

/-- A worker that is gone is forgotten. -/
theorem Recalls.erase (hr : Recalls h r) (id : WorkerId) :
    Recalls (h ++ [.seen id .undefined]) (r.erase id) where
  status other := by
    rw [last?_concat_seen]
    by_cases hid : id = other
    · subst hid
      rw [find?_of_not_contains (contains_erase_self hr.isDistinct id), if_pos rfl]
      rfl
    · rw [if_neg hid, find?_erase_of_ne (Ne.symm hid)]
      exact hr.status other
  since other := by
    rw [since?_concat]
    by_cases hid : id = other
    · subst hid
      simp [misses, contains_erase_self hr.isDistinct]
    · have hmiss : (seen id .undefined).misses other = false := by simp [misses, hid]
      have hfind : (seen id .undefined).finds other = false := by simp [finds]
      rw [← isSome_find?, find?_erase_of_ne (Ne.symm hid), isSome_find?, ← hr.since other]
      simp [hmiss, hfind]
  order := by
    rw [ids_erase]
    refine hr.order_concat List.erase_sublist ?_
    intro other hother
    -- the one who is gone is not among those who are left
    have hne : id ≠ other := by
      rintro rfl
      exact hr.isDistinct.not_mem_erase hother
    simp [misses, hne]

/-- A worker that is there keeps its place, or comes in at the end. -/
theorem Recalls.put (hr : Recalls h r) (id : WorkerId) {status : Status}
    (hstatus : status ≠ .undefined) :
    Recalls (h ++ [.seen id status]) (r.put id status).1 where
  status other := by
    rw [last?_concat_seen]
    by_cases hid : id = other
    · subst hid
      rw [find?_put_self, if_pos rfl, Option.filter_some, if_pos (by simpa using hstatus)]
      rfl
    · rw [if_neg hid, find?_put_of_ne (Ne.symm hid)]
      exact hr.status other
  since other := by
    rw [since?_concat]
    have hmiss : (seen id status).misses other = false := by simp [misses, hstatus]
    by_cases hid : id = other
    · subst hid
      have hknown : (r.put id status).1.contains id = true := by
        rw [← isSome_find?, find?_put_self]
        rfl
      have hfind : (seen id status).finds id = true := by simp [finds, hstatus]
      simp [hmiss, hfind, hknown]
    · have hfind : (seen id status).finds other = false := by simp [finds, hid]
      rw [← isSome_find?, find?_put_of_ne (Ne.symm hid), isSome_find?, ← hr.since other]
      simp [hmiss, hfind]
  order := by
    have hmiss : ∀ other, (seen id status).misses other = false := by simp [misses, hstatus]
    have hbefore := hr.order_concat (List.Sublist.refl r.ids) fun other _ => hmiss other
    rw [ids_put]
    split
    · exact hbefore
    · next hnew =>
      -- its stay begins now, and all others began before
      have hnone : since? id h = none := by
        rw [← Option.not_isSome_iff_eq_none, hr.since id]
        exact hnew
      have hnow : since? id (h ++ [.seen id status]) = some h.length := by
        simp [since?_concat, hmiss, hnone, finds, hstatus]
      refine List.pairwise_append.2 ⟨hbefore, List.pairwise_singleton _ _, ?_⟩
      intro a ha b hb
      rw [List.mem_singleton.1 hb]
      have hsome : (since? a h).isSome = true := by
        rw [hr.since a, contains_iff_mem_ids]
        exact ha
      obtain ⟨p, hp⟩ := Option.isSome_iff_exists.1 hsome
      exact ⟨p, h.length, by simp [since?_concat, hmiss, hp], hnow, since?_lt_length hp⟩

/-- What a roster recalls of a history is kept by every further sighting. -/
theorem Recalls.meet (hr : Recalls h r) (s : Sighting) : Recalls (h ++ [s]) (r.meet s) := by
  cases s with
  | cleared => exact .clear
  | seen id status =>
    simp only [Roster.meet, roster_track]
    split
    · next hstatus =>
      subst hstatus
      exact hr.erase id
    · next hstatus => exact hr.put id hstatus

theorem recalls_ofSightings (h : List Sighting) : Recalls h (ofSightings h) := by
  induction h using List.reverseRecOn with
  | nil => exact ⟨fun _ => rfl, fun _ => rfl, List.Pairwise.nil⟩
  | append_singleton h s ih =>
    rw [ofSightings_concat]
    exact ih.meet s

/-! ## Who is chosen -/

theorem Recalls.find?_eq_some_iff (hr : Recalls h r) (id : WorkerId) (status : Status) :
    r.find? id = some ⟨id, status⟩ ↔ last? id h = some status ∧ status ≠ .undefined := by
  have hstatus := hr.status id
  constructor
  · intro hfound
    rw [hfound, Option.map_some] at hstatus
    simpa using Option.filter_eq_some_iff.1 hstatus.symm
  · rintro ⟨hlast, hne⟩
    rw [hlast, Option.filter_some, if_pos (by simpa using hne)] at hstatus
    obtain ⟨⟨found, _⟩, hfound, rfl⟩ := Option.map_eq_some_iff.1 hstatus
    rw [hfound, ← id_of_find? hfound]

theorem Recalls.mem_workers_iff (hr : Recalls h r) (w : Worker) :
    w ∈ r.workers ↔ last? w.id h = some w.status ∧ w.status ≠ .undefined := by
  rw [← hr.find?_eq_some_iff, hr.isDistinct.find?_eq_some_iff]
  exact (and_iff_left rfl).symm

/-- An idle worker that is chosen is on a longer stay than any other that is idle. -/
theorem Recalls.isOlder_of_firstIdle? (hr : Recalls h r) {w : Worker}
    (hw : firstIdle? r.workers = some w) {other : WorkerId} (hne : other ≠ w.id)
    (hidle : last? other h = some .idle) : IsOlder h w.id other := by
  obtain ⟨-, before, after, hsplit, hbefore⟩ := List.find?_eq_some_iff_append.1 hw
  have hother : (⟨other, .idle⟩ : Worker) ∈ r.workers :=
    (hr.mem_workers_iff ⟨other, .idle⟩).2 ⟨hidle, by simp⟩
  have horder : r.workers.Pairwise fun v w => IsOlder h v.id w.id := List.pairwise_map.1 hr.order
  rw [hsplit] at hother horder
  rcases List.mem_append.1 hother with hother | hother
  · -- nobody in front of the one who is chosen is idle
    simpa [Worker.isIdle] using hbefore _ hother
  · rcases List.mem_cons.1 hother with heq | hother
    · exact absurd (congrArg Worker.id heq) hne
    · have hbehind := (List.pairwise_cons.1 (List.pairwise_append.1 horder).2.1).1
      exact hbehind ⟨other, .idle⟩ hother

/-- The first idle worker is the one whose stay began first among those who are idle. -/
theorem Recalls.firstIdle?_eq_some_iff (hr : Recalls h r) (w : Worker) :
    firstIdle? r.workers = some w ↔
      w.status = .idle ∧ last? w.id h = some .idle ∧
        ∀ other, other ≠ w.id → last? other h = some .idle → IsOlder h w.id other := by
  have hidle : ∀ v, firstIdle? r.workers = some v →
      v.status = .idle ∧ last? v.id h = some .idle := by
    intro v hv
    have hstatus : v.status = .idle := by simpa [Worker.isIdle] using List.find?_some hv
    refine ⟨hstatus, ?_⟩
    rw [← hstatus]
    exact ((hr.mem_workers_iff v).1 (List.mem_of_find?_eq_some hv)).1
  constructor
  · intro hw
    obtain ⟨hstatus, hlast⟩ := hidle w hw
    exact ⟨hstatus, hlast, fun other hne => hr.isOlder_of_firstIdle? hw hne⟩
  · rintro ⟨hstatus, hlast, hfirst⟩
    have hw : w ∈ r.workers := (hr.mem_workers_iff w).2 ⟨hstatus ▸ hlast, by simp [hstatus]⟩
    obtain ⟨v, hv⟩ : ∃ v, firstIdle? r.workers = some v := by
      rw [← Option.isSome_iff_exists]
      exact List.find?_isSome.2 ⟨w, hw, by simp [Worker.isIdle, hstatus]⟩
    obtain ⟨hvstatus, hvlast⟩ := hidle v hv
    -- if it were another one, each would be on the longer stay
    have hid : v.id = w.id := by
      by_contra hne
      exact (hfirst v.id hne hvlast).asymm (hr.isOlder_of_firstIdle? hv (Ne.symm hne) hlast)
    have hsame : v = w := by
      cases v
      cases w
      simp_all
    exact hsame ▸ hv

theorem Recalls.firstIdle?_eq_none_iff (hr : Recalls h r) :
    firstIdle? r.workers = none ↔ ∀ id, last? id h ≠ some .idle := by
  rw [firstIdle?, List.find?_eq_none]
  constructor
  · intro hnone id hidle
    have hmem : (⟨id, .idle⟩ : Worker) ∈ r.workers :=
      (hr.mem_workers_iff ⟨id, .idle⟩).2 ⟨hidle, by simp⟩
    exact hnone _ hmem rfl
  · intro hnone w hw hidle
    have hstatus : w.status = .idle := by simpa [Worker.isIdle] using hidle
    exact hnone w.id (hstatus ▸ ((hr.mem_workers_iff w).1 hw).1)

/-- A roster is a function of its history. A worker is known if and only if it was not gone when it
    was last seen, since everybody was gone last; it has the status that it was seen with then; the
    workers stand in the order in which their stays began; and the one who is chosen is the one on
    the longest stay among those who were idle when they were last seen. -/
theorem history_determines (h : List Sighting) :
    (∀ id, (ofSightings h).contains id = true ↔
      ∃ status, last? id h = some status ∧ status ≠ .undefined) ∧
    (∀ id status, (ofSightings h).find? id = some ⟨id, status⟩ ↔
      last? id h = some status ∧ status ≠ .undefined) ∧
    (∀ id, (ofSightings h).contains id = true → ∃ place, since? id h = some place) ∧
    ((ofSightings h).workers.Pairwise fun v w => IsOlder h v.id w.id) ∧
    (∀ w, firstIdle? (ofSightings h).workers = some w ↔
      w.status = .idle ∧ last? w.id h = some .idle ∧
        ∀ other, other ≠ w.id → last? other h = some .idle → IsOlder h w.id other) ∧
    (firstIdle? (ofSightings h).workers = none ↔ ∀ id, last? id h ≠ some .idle) := by
  have hr := recalls_ofSightings h
  refine ⟨?known, hr.find?_eq_some_iff, ?stays, List.pairwise_map.1 hr.order,
    hr.firstIdle?_eq_some_iff, hr.firstIdle?_eq_none_iff⟩
  case known =>
    intro id
    rw [← isSome_find?, Option.isSome_iff_exists]
    constructor
    · rintro ⟨⟨found, status⟩, hfound⟩
      obtain rfl : found = id := id_of_find? hfound
      exact ⟨status, (hr.find?_eq_some_iff found status).1 hfound⟩
    · rintro ⟨status, hstatus⟩
      exact ⟨_, (hr.find?_eq_some_iff id status).2 hstatus⟩
  case stays =>
    intro id hknown
    rw [← Option.isSome_iff_exists, hr.since id]
    exact hknown

/-- A worker that went and came back stands behind one that stayed. -/
example :
    let h : List Sighting :=
      [.cleared, .seen ⟨"a"⟩ .idle, .seen ⟨"b"⟩ .busy, .seen ⟨"a"⟩ .undefined, .seen ⟨"a"⟩ .idle,
        .seen ⟨"b"⟩ .idle]
    since? ⟨"a"⟩ h = some 4 ∧ since? ⟨"b"⟩ h = some 2 ∧
      firstIdle? (ofSightings h).workers = some ⟨⟨"b"⟩, .idle⟩ := by
  decide

end Roster

end WorkerRoster
