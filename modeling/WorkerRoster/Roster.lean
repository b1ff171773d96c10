import WorkerRoster.Keyed
import WorkerRoster.Worker

/-!
# The Roster

The workers that are known, in the order in which they were first met. A worker keeps its place
while its status changes; one that is removed and met again goes to the end.
-/

set_option autoImplicit false

namespace WorkerRoster

/-- The workers that are known. -/
structure Roster where
  workers : List Worker := []
  deriving DecidableEq, Repr

namespace Roster

/-- What setting a status did. -/
inductive Change where
  | created
  | updated (previous : Status)
  deriving DecidableEq, Repr

/-- The worker of an address. -/
def find? (r : Roster) (id : WorkerId) : Option Worker :=
  r.workers.find? (·.id = id)

/-- Whether a worker is known. -/
def contains (r : Roster) (id : WorkerId) : Bool :=
  r.workers.any (·.id = id)

/-- How many workers are known. -/
def size (r : Roster) : Nat :=
  r.workers.length

/-- Whether nobody is known. -/
def isEmpty (r : Roster) : Bool :=
  r.workers.isEmpty

/-- Set the status of a worker in place. -/
def setStatus (id : WorkerId) (status : Status) : List Worker → List Worker
  | [] => []
  | w :: rest => if w.id = id then { w with status } :: rest else w :: setStatus id status rest

/-- Set the status of a worker, which is added at the end if it is not known. The status must not be
    the undefined one: a worker who counts as gone is removed and never kept, and `track` sees to
    it. -/
def put (r : Roster) (id : WorkerId) (status : Status) : Roster × Change :=
  match r.find? id with
  | some w => (⟨setStatus id status r.workers⟩, .updated w.status)
  | none => (⟨r.workers ++ [⟨id, status⟩]⟩, .created)

/-- Remove a worker, if it is known. -/
def erase (r : Roster) (id : WorkerId) : Roster :=
  ⟨r.workers.eraseP (·.id = id)⟩

/-- Remove everybody. -/
def empty : Roster := {}

/-- Remove a worker from its place, and tell whether it was known. -/
def remove (r : Roster) (id : WorkerId) : Roster × Bool :=
  match r.workers.findIdx? (·.id = id) with
  | some place => (⟨r.workers.eraseIdx place⟩, true)
  | none => (r, false)

/-- Remove everybody at once, and tell who was known, in order. -/
def drain (r : Roster) : Roster × List Worker :=
  (empty, r.workers)

/-! ## Looking up -/

/-- The addresses of the workers, in order. -/
def ids (r : Roster) : List WorkerId :=
  r.workers.map (·.id)

/-- A worker is known just if its address is among those there are. -/
theorem contains_iff_mem_ids (r : Roster) (id : WorkerId) :
    r.contains id = true ↔ id ∈ r.ids := by
  simp [contains, ids]

/-- A worker is known just if it can be found. -/
theorem isSome_find? (r : Roster) (id : WorkerId) : (r.find? id).isSome = r.contains id := by
  simp [find?, contains, List.isSome_find?]

/-- A worker that is not known is not found. -/
theorem find?_of_not_contains {r : Roster} {id : WorkerId} (h : r.contains id = false) :
    r.find? id = none := by
  rw [← Option.not_isSome_iff_eq_none, isSome_find?, h]
  exact Bool.false_ne_true

/-- What is found has the address that was asked for. -/
theorem id_of_find? {r : Roster} {id : WorkerId} {w : Worker} (h : r.find? id = some w) :
    w.id = id := by
  simpa using List.find?_some h

/-! ## Setting a status -/

/-- Setting a status in place keeps all addresses. -/
@[simp] theorem map_id_setStatus (id : WorkerId) (status : Status) (ws : List Worker) :
    (setStatus id status ws).map (·.id) = ws.map (·.id) := by
  induction ws with
  | nil => rfl
  | cons w rest ih => by_cases h : w.id = id <;> simp [setStatus, h, ih]

/-- Setting a status in place sets it. -/
theorem find?_setStatus_self {id : WorkerId} (status : Status) {ws : List Worker}
    (h : id ∈ ws.map (·.id)) :
    (setStatus id status ws).find? (·.id = id) = some ⟨id, status⟩ := by
  induction ws with
  | nil => simp at h
  | cons w rest ih =>
    by_cases hw : w.id = id
    · simp [setStatus, hw]
    · have hrest : id ∈ rest.map (·.id) := by simpa [Ne.symm hw] using h
      simp [setStatus, hw, ih hrest]

/-- Setting a status in place changes no other worker. -/
theorem find?_setStatus_of_ne {id other : WorkerId} (h : other ≠ id) (status : Status)
    (ws : List Worker) :
    (setStatus id status ws).find? (·.id = other) = ws.find? (·.id = other) := by
  induction ws with
  | nil => rfl
  | cons w rest ih =>
    by_cases hw : w.id = id
    · simp [setStatus, hw, Ne.symm h]
    · simp [setStatus, hw, List.find?_cons, ih]

/-- A worker whose status was set has that status. -/
@[simp] theorem find?_put_self (r : Roster) (id : WorkerId) (status : Status) :
    (r.put id status).1.find? id = some ⟨id, status⟩ := by
  unfold put
  split
  · next w hw =>
    have hid : id ∈ r.ids := by
      rw [← contains_iff_mem_ids, ← isSome_find?, hw]
      rfl
    exact find?_setStatus_self status hid
  · next hw =>
    have hw : r.workers.find? (·.id = id) = none := hw
    simp [find?, List.find?_append, hw]

/-- Setting the status of a worker changes no other worker. -/
theorem find?_put_of_ne {id other : WorkerId} (h : other ≠ id) (r : Roster) (status : Status) :
    (r.put id status).1.find? other = r.find? other := by
  unfold put
  split
  · exact find?_setStatus_of_ne h status r.workers
  · simp [find?, List.find?_append, Ne.symm h]

/-- A worker keeps its place while its status changes, and a new one goes to the end. -/
theorem ids_put (r : Roster) (id : WorkerId) (status : Status) :
    (r.put id status).1.ids = if r.contains id then r.ids else r.ids ++ [id] := by
  rw [← isSome_find?]
  unfold put
  split
  · next w hw => simp [ids, hw]
  · next hw => simp [ids, hw]

/-! ## Removing a worker -/

/-- Removing a worker takes the first of its address away. -/
theorem ids_erase (r : Roster) (id : WorkerId) : (r.erase id).ids = r.ids.erase id := by
  obtain ⟨ws⟩ := r
  induction ws with
  | nil => rfl
  | cons w rest ih =>
    by_cases h : w.id = id
    · simp [erase, ids, h]
    · simp only [erase, ids] at ih ⊢
      simp [h, ih]

/-- Removing a worker who is not known changes nothing. -/
theorem erase_of_not_contains {r : Roster} {id : WorkerId} (h : r.contains id = false) :
    r.erase id = r := by
  have hnone : ∀ w ∈ r.workers, ¬ w.id = id := by simpa [contains] using h
  unfold erase
  rw [List.eraseP_of_forall_not (by simpa using hnone)]

/-- Removing a worker changes no other worker. -/
theorem find?_erase_of_ne {id other : WorkerId} (h : other ≠ id) (r : Roster) :
    (r.erase id).find? other = r.find? other :=
  Keyed.find?_eraseP_of_ne h r.workers

/-- A worker that has a place was known, and removing it from there takes it away. -/
theorem remove_eq (r : Roster) (id : WorkerId) : r.remove id = (r.erase id, r.contains id) := by
  unfold remove erase contains
  rw [List.eraseP_eq_eraseIdx, ← List.findIdx?_isSome]
  cases r.workers.findIdx? (·.id = id) <;> rfl

/-! ## Each worker once -/

/-- Whether no address is there twice. -/
def IsDistinct (r : Roster) : Prop :=
  r.ids.Nodup

/-- Nobody is there twice where nobody is. -/
theorem isDistinct_empty : empty.IsDistinct :=
  List.nodup_nil

/-- Setting a status puts nobody in twice. -/
theorem IsDistinct.put {r : Roster} (h : r.IsDistinct) (id : WorkerId) (status : Status) :
    (r.put id status).1.IsDistinct := by
  unfold IsDistinct
  rw [ids_put]
  split
  · exact h
  · next hid =>
    rw [contains_iff_mem_ids] at hid
    exact List.nodup_append.2 ⟨h, by simp, fun a ha b hb => by grind⟩

/-- Removing a worker puts nobody in twice. -/
theorem IsDistinct.erase {r : Roster} (h : r.IsDistinct) (id : WorkerId) :
    (r.erase id).IsDistinct := by
  unfold IsDistinct
  rw [ids_erase]
  exact List.Nodup.erase id h

/-- A worker who was removed is gone. -/
theorem contains_erase_self {r : Roster} (h : r.IsDistinct) (id : WorkerId) :
    (r.erase id).contains id = false := by
  rw [Bool.eq_false_iff, Ne, contains_iff_mem_ids, ids_erase]
  exact List.Nodup.not_mem_erase h

/-- A worker is found just if it is there and has the address. -/
theorem IsDistinct.find?_eq_some_iff {r : Roster} (h : r.IsDistinct) {id : WorkerId} {w : Worker} :
    r.find? id = some w ↔ w ∈ r.workers ∧ w.id = id :=
  Keyed.find?_eq_some_iff h

/-! ## Nobody undefined -/

/-- Whether nobody is there with a status that says it is gone. -/
def IsDefinite (r : Roster) : Prop :=
  ∀ w ∈ r.workers, w.status ≠ .undefined

/-- Nobody is undefined where nobody is. -/
theorem isDefinite_empty : empty.IsDefinite := by
  intro w hw
  cases hw

/-- A worker in a list in which a status was set has that status, or was there before. -/
theorem mem_setStatus {id : WorkerId} {status : Status} {ws : List Worker} {w : Worker}
    (h : w ∈ setStatus id status ws) : w.status = status ∨ w ∈ ws := by
  induction ws with
  | nil => cases h
  | cons v rest ih => grind [setStatus]

/-- Setting any status but one leaves nobody undefined. -/
theorem IsDefinite.put {r : Roster} (h : r.IsDefinite) (id : WorkerId) {status : Status}
    (hstatus : status ≠ .undefined) : (r.put id status).1.IsDefinite := by
  intro w hw
  unfold Roster.put at hw
  split at hw
  · rcases mem_setStatus hw with hw | hw
    · exact hw ▸ hstatus
    · exact h w hw
  · rcases List.mem_append.1 hw with hw | hw
    · exact h w hw
    · rw [List.mem_singleton.1 hw]
      exact hstatus

/-- Removing a worker leaves nobody undefined. -/
theorem IsDefinite.erase {r : Roster} (h : r.IsDefinite) (id : WorkerId) :
    (r.erase id).IsDefinite :=
  fun w hw => h w (List.mem_of_mem_eraseP hw)

end Roster

/-! ## Choosing -/

/-- The first idle worker of a list. -/
def firstIdle? (workers : List Worker) : Option Worker :=
  workers.find? Worker.isIdle

end WorkerRoster
