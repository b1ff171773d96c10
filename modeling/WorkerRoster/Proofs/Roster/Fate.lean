import WorkerRoster.Tracking

/-!
# What Happens to a Worker

Seen from one worker, little can happen at once: nothing, or it shows a status, or it goes. What is
announced about it then follows from that alone, whoever else comes or goes at the same time.

## Main statements

- `Roster.fate_track`: what happens to a worker when any worker is seen
- `Roster.fate_dismiss`: what happens to a worker when everybody is gone
-/

set_option autoImplicit false

namespace WorkerRoster

/-- The announcements about a worker. -/
def about (w : WorkerId) (as : List Announcement) : List Announcement :=
  as.filter (·.worker = w)

/-- What can happen to a worker at once, what is announced about it, and how it is known then.
    `seen` is the status that it is seen with, if it is seen. -/
inductive Fate (w : WorkerId) (seen : Option Status) :
    Option Worker → List Announcement → Option Worker → Prop where
  /-- It stays as it is. -/
  | stays (known : Option Worker) : Fate w seen known [] known
  /-- It shows a status, whether or not it was known. -/
  | shows {status : Status} (known : Option Worker) (seen_eq : seen = some status)
      (defined : status ≠ .undefined) :
      Fate w seen known (status.availability.map (.availability w)).toList (some ⟨w, status⟩)
  /-- It was known, and goes. -/
  | goes (known : Worker) : Fate w seen (some known) [.offline w] none

namespace Roster

variable {r : Roster}

theorem announcements_statusEffect (id : WorkerId) (status : Status) :
    announcements [statusEffect id status] =
      (status.availability.map (.availability id)).toList := by
  unfold statusEffect
  cases status <;> rfl

/-- What is announced when a worker is seen. -/
theorem announcements_track (r : Roster) (id : WorkerId) (status : Status) :
    announcements (r.track id status).effects =
      if status = .undefined then (if r.contains id then [.offline id] else [])
      else (status.availability.map (.availability id)).toList := by
  by_cases hstatus : status = .undefined
  · rw [track_of_isUndefined r id (Status.isUndefined_iff.2 hstatus), if_pos hstatus]
    split <;> rfl
  · unfold track
    rw [if_neg (mt Status.isUndefined_iff.1 hstatus), if_neg hstatus, ← announcements_statusEffect]
    -- the entry about a new worker announces nobody
    split <;> rfl

theorem about_other {w id : WorkerId} (h : id ≠ w) {as : List Announcement}
    (hall : ∀ a ∈ as, a.worker = id) : about w as = [] := by
  refine List.filter_eq_nil_iff.2 fun a ha => ?_
  rw [hall a ha]
  simpa using h

theorem about_self {w : WorkerId} {as : List Announcement} (hall : ∀ a ∈ as, a.worker = w) :
    about w as = as := by
  refine List.filter_eq_self.2 fun a ha => ?_
  simpa using hall a ha

/-- When a worker is seen, nothing happens to any other. -/
theorem find?_track_of_ne {w id : WorkerId} (h : w ≠ id) (r : Roster) (status : Status) :
    (r.track id status).roster.find? w = r.find? w := by
  rw [roster_track]
  split
  · exact find?_erase_of_ne h r
  · exact find?_put_of_ne h r status

theorem worker_of_mem_announcements_track {id : WorkerId} {status : Status} {a : Announcement}
    (h : a ∈ announcements (r.track id status).effects) : a.worker = id := by
  rw [announcements_track] at h
  split at h
  · split at h
    · rw [List.mem_singleton.1 h]
      rfl
    · cases h
  · obtain ⟨b, -, rfl⟩ := Option.map_eq_some_iff.1 (Option.mem_toList.1 h)
    rfl

/-- What happens to a worker when any worker is seen. -/
theorem fate_track (hr : r.IsDistinct) (w id : WorkerId) (status : Status) :
    Fate w (if id = w then some status else none) (r.find? w)
      (about w (announcements (r.track id status).effects))
      ((r.track id status).roster.find? w) := by
  by_cases hid : id = w
  · subst hid
    rw [if_pos rfl, about_self fun a => worker_of_mem_announcements_track]
    by_cases hstatus : status = .undefined
    · subst hstatus
      rw [announcements_track, roster_track, if_pos rfl, if_pos rfl,
        find?_of_not_contains (contains_erase_self hr id)]
      cases hknown : r.contains id with
      | false =>
        rw [find?_of_not_contains hknown]
        exact .stays none
      | true =>
        obtain ⟨known, hfound⟩ := Option.isSome_iff_exists.1 ((isSome_find? r id).trans hknown)
        rw [hfound]
        exact .goes known
    · rw [announcements_track, roster_track, if_neg hstatus, if_neg hstatus, find?_put_self]
      exact .shows _ rfl hstatus
  · rw [find?_track_of_ne (Ne.symm hid), about_other hid fun a => worker_of_mem_announcements_track]
    exact .stays _

/-- What happens to a worker when everybody is gone. -/
theorem fate_dismiss (hr : r.IsDistinct) (w : WorkerId) (seen : Option Status) :
    Fate w seen (r.find? w) (about w (r.workers.map (.offline ·.id))) (empty.find? w) := by
  have habout : about w (r.workers.map (.offline ·.id)) =
      (r.workers.filter (·.id = w)).map (.offline ·.id) := by
    rw [about, List.filter_map]
    rfl
  -- it is known once, so it is announced once
  have honce : r.workers.filter (·.id = w) = (r.find? w).toList :=
    Keyed.filter_eq_toList_find? hr w
  show Fate w seen (r.find? w) _ none
  rw [habout, honce]
  cases hfound : r.find? w with
  | none => exact .stays none
  | some known =>
    obtain rfl := id_of_find? hfound
    exact .goes known

end Roster

end WorkerRoster
