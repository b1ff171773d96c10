import Mathlib.Data.Set.Card
import WorkerRoster.Roster

/-!
# A Roster Is a Map in the Order of Insertion

A roster is a plain list, and whatever is asked of it or done to it concerns the first worker of an
address. It is a map all the same, because no address is ever there twice: whoever is put in and is
known already keeps the place, and only who is not known is added.

What an edit answers and what is there afterwards is said in terms of who is found (`find?`) and in
which order the addresses stand (`ids`). There is no more to a roster than these two, and whatever
else is asked of it is answered from the same list. The status itself does not matter: one that says
the worker is gone would be kept like any other, though nobody who keeps track of workers sets it.

## Main statements

- `Roster.IsDistinct.edit`, `Roster.isDistinct_ofEdits`: no address is there twice after any edits
- `Roster.puts`, `Roster.IsDistinct.removes`, `Roster.drains`: what each edit does
- `Roster.IsDistinct.isCoherent`: all questions are answered from the same list
- `Roster.insertion_ordered`: the four facts, after all edits
-/

set_option autoImplicit false

namespace WorkerRoster

namespace Roster

/-! ## Edits -/

/-- What changes a roster. -/
inductive Edit where
  /-- The status of a worker is set. -/
  | put (id : WorkerId) (status : Status)
  /-- A worker is removed. -/
  | remove (id : WorkerId)
  /-- Everybody is removed. -/
  | drain
  deriving DecidableEq, Repr

/-- The roster after an edit. -/
def edit (r : Roster) : Edit → Roster
  | .put id status => (r.put id status).1
  | .remove id => (r.remove id).1
  | .drain => r.drain.1

/-- The roster after some edits, in which nobody is known at first. -/
def ofEdits (edits : List Edit) : Roster :=
  edits.foldl edit empty

variable {r : Roster}

/-- No edit puts anybody in twice. -/
theorem IsDistinct.edit (h : r.IsDistinct) (e : Edit) : (r.edit e).IsDistinct := by
  cases e with
  | put id status => exact h.put id status
  | remove id =>
    simp only [Roster.edit, remove_eq]
    exact h.erase id
  | drain => exact isDistinct_empty

theorem IsDistinct.foldl_edit (h : r.IsDistinct) (edits : List Edit) :
    (edits.foldl Roster.edit r).IsDistinct := by
  induction edits generalizing r with
  | nil => exact h
  | cons e rest ih => exact ih (h.edit e)

theorem isDistinct_ofEdits (edits : List Edit) : (ofEdits edits).IsDistinct :=
  isDistinct_empty.foldl_edit edits

/-! ## What the edits do -/

/-- What setting the status of a worker answers, and what is there afterwards. -/
structure Puts (r : Roster) (id : WorkerId) (status : Status) (done : Roster × Change) : Prop where
  /-- A worker who was not known is new. -/
  created_iff : done.2 = .created ↔ r.contains id = false
  /-- Of any other, the status is given back that it was found with before. -/
  updated_iff : ∀ previous, done.2 = .updated previous ↔ r.find? id = some ⟨id, previous⟩
  /-- The worker is found with the new status, and all others as before. -/
  found : ∀ other, done.1.find? other = if other = id then some ⟨id, status⟩ else r.find? other
  /-- Whoever was known keeps the place, and who is new comes last. -/
  order : done.1.ids = if r.contains id then r.ids else r.ids ++ [id]

/-- What removing a worker answers, and what is there afterwards. -/
structure Removes (r : Roster) (id : WorkerId) (done : Roster × Bool) : Prop where
  /-- It is told whether the worker was known. -/
  known : done.2 = r.contains id
  /-- The worker is not known any more. -/
  gone : done.1.contains id = false
  /-- The worker is not found any more, and all others are found as before. -/
  found : ∀ other, done.1.find? other = if other = id then none else r.find? other
  /-- All others are there as before, in the same order. -/
  others : done.1.workers = r.workers.filter (·.id ≠ id)

/-- What removing everybody answers, and what is there afterwards. -/
structure Drains (r : Roster) (done : Roster × List Worker) : Prop where
  /-- All who were there are given back, in order. -/
  all : done.2 = r.workers
  /-- Nobody is left. -/
  nobody : done.1.workers = []

theorem put_eq_created_iff (r : Roster) (id : WorkerId) (status : Status) :
    (r.put id status).2 = .created ↔ r.contains id = false := by
  rw [← isSome_find?]
  unfold put
  cases r.find? id <;> simp

theorem put_eq_updated_iff (r : Roster) (id : WorkerId) (status previous : Status) :
    (r.put id status).2 = .updated previous ↔ r.find? id = some ⟨id, previous⟩ := by
  unfold put
  cases hfound : r.find? id with
  | none => simp
  | some w =>
    -- what is found has the address, so only its status is open
    obtain ⟨found, known⟩ := w
    obtain rfl : found = id := id_of_find? hfound
    simp

theorem puts (r : Roster) (id : WorkerId) (status : Status) :
    r.Puts id status (r.put id status) where
  created_iff := put_eq_created_iff r id status
  updated_iff := put_eq_updated_iff r id status
  found other := by
    split
    · next hother =>
      subst hother
      exact find?_put_self r other status
    · next hother => exact find?_put_of_ne hother r status
  order := ids_put r id status

theorem IsDistinct.removes (h : r.IsDistinct) (id : WorkerId) : r.Removes id (r.remove id) := by
  rw [remove_eq]
  -- only the first one of the address is taken out, but there is no second
  refine ⟨rfl, contains_erase_self h id, ?found, Keyed.eraseP_eq_filter h id⟩
  case found =>
    intro other
    split
    · next hother =>
      subst hother
      exact find?_of_not_contains (contains_erase_self h other)
    · next hother => exact find?_erase_of_ne hother r

theorem drains (r : Roster) : r.Drains r.drain :=
  ⟨rfl, rfl⟩

/-! ## What is asked -/

/-- All questions are answered from the same list. -/
structure IsCoherent (r : Roster) : Prop where
  /-- No address is there twice. -/
  distinct : r.ids.Nodup
  /-- There is nothing in the list but who is found, in the order of the addresses. -/
  workers_eq : r.workers = r.ids.filterMap r.find?
  /-- Whoever is there is found. -/
  found_iff : ∀ id w, r.find? id = some w ↔ w ∈ r.workers ∧ w.id = id
  /-- Whoever is there is known. -/
  known_iff : ∀ id, r.contains id = true ↔ ∃ w ∈ r.workers, w.id = id
  /-- All who are there are counted. -/
  size_eq : r.size = r.workers.length
  /-- That is how many addresses are known. -/
  size_eq_ncard : r.size = {id | r.contains id = true}.ncard
  /-- The roster counts as empty just if nobody is there. -/
  isEmpty_iff : r.isEmpty = true ↔ r.workers = []

theorem IsDistinct.workers_eq_filterMap (h : r.IsDistinct) :
    r.workers = r.ids.filterMap r.find? := by
  have hfound : ∀ w ∈ r.workers, r.find? w.id = some w := fun w hw =>
    h.find?_eq_some_iff.2 ⟨hw, rfl⟩
  calc r.workers = r.workers.filterMap some := List.filterMap_some.symm
    _ = r.workers.filterMap (r.find? ·.id) :=
      List.filterMap_congr fun w hw => (hfound w hw).symm
    _ = r.ids.filterMap r.find? := by
      rw [ids, List.filterMap_map]
      rfl

theorem IsDistinct.size_eq_ncard (h : r.IsDistinct) :
    r.size = {id | r.contains id = true}.ncard := by
  have hids : {id | r.contains id = true} = (r.ids.toFinset : Set WorkerId) := by
    ext id
    simp [contains_iff_mem_ids]
  rw [hids, Set.ncard_coe_finset, List.toFinset_card_of_nodup h, ids, List.length_map, size]

theorem IsDistinct.isCoherent (h : r.IsDistinct) : r.IsCoherent where
  distinct := h
  workers_eq := h.workers_eq_filterMap
  found_iff _ _ := h.find?_eq_some_iff
  known_iff id := by simp [contains]
  size_eq := rfl
  size_eq_ncard := h.size_eq_ncard
  isEmpty_iff := List.isEmpty_iff

/-- A roster is a map in the order of insertion. Whatever was put in and removed before: setting a
    status tells whether the worker is new or which status it had, changes no other worker and keeps
    the order; removing a worker tells whether it was known and leaves all others as they were;
    removing everybody gives back who was there; and all questions are answered from the same list
    of workers, in which no address is there twice. -/
theorem insertion_ordered (edits : List Edit) :
    (∀ id status, (ofEdits edits).Puts id status ((ofEdits edits).put id status)) ∧
    (∀ id, (ofEdits edits).Removes id ((ofEdits edits).remove id)) ∧
    (ofEdits edits).Drains (ofEdits edits).drain ∧
    (ofEdits edits).IsCoherent := by
  have hdistinct := isDistinct_ofEdits edits
  exact ⟨puts (ofEdits edits), hdistinct.removes, drains (ofEdits edits), hdistinct.isCoherent⟩

/-- A worker who is removed from the middle and put in again comes last. -/
example :
    (ofEdits [.put ⟨"a"⟩ .busy, .put ⟨"b"⟩ .idle, .put ⟨"c"⟩ .busy, .put ⟨"a"⟩ .idle,
        .remove ⟨"b"⟩, .put ⟨"b"⟩ .busy]).workers =
      [⟨⟨"a"⟩, .idle⟩, ⟨⟨"c"⟩, .busy⟩, ⟨⟨"b"⟩, .busy⟩] := by
  decide

end Roster

end WorkerRoster
