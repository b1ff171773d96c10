import WorkerRoster.Incident
import WorkerRoster.Journal
import WorkerRoster.Roster

/-!
# Keeping Track of Workers

How an observed status changes the roster, and what is written down and announced about it. The
outcome does not depend on whether anyone takes the announcements: what a step has to say is given
back as a list of effects in order, and whoever carries them out cannot influence the roster.
-/

set_option autoImplicit false

namespace WorkerRoster

/-! ## Effects -/

/-- Something to be done outside. -/
inductive Effect where
  /-- Write an entry down. -/
  | note (e : Entry)
  /-- Make an announcement. -/
  | announce (a : Announcement)
  deriving DecidableEq, Repr

/-- The announcements among effects, in order. -/
def announcements (effects : List Effect) : List Announcement :=
  effects.filterMap fun
    | .announce a => some a
    | .note _ => none

@[simp] theorem announcements_append (front back : List Effect) :
    announcements (front ++ back) = announcements front ++ announcements back :=
  List.filterMap_append

/-! ## Observing -/

/-- What an observation did. -/
inductive Outcome where
  /-- The worker was not known and is now. -/
  | added
  /-- The worker was known and has a new status. -/
  | updated
  /-- The worker was known and is gone. -/
  | removed
  /-- A worker who is not known is gone: nothing happened. -/
  | ignored
  deriving DecidableEq, Repr

/-- The name of an outcome in the journal. -/
def Outcome.name : Outcome → String
  | .added => "Added"
  | .updated => "Updated"
  | .removed => "Removed"
  | .ignored => "Ignored"

/-- The roster after an observation, what the observation did, and what is to be done about it. -/
structure Tracked where
  roster : Roster
  outcome : Outcome
  effects : List Effect

/-- What is to be done about the status of a worker who is there. -/
def statusEffect (id : WorkerId) (status : Status) : Effect :=
  match status.availability with
  | some available => .announce (.availability id available)
  | none =>
    let incident := Incident.unrecognizedStatus id status.word
    .note (.write .error "unknown worker status"
      [("error", .shown incident.message), ("error_kind", .text incident.category)])

namespace Roster

/-- The entry about a worker who is gone. -/
def removalEntry (id : WorkerId) : Entry :=
  .write .info "removed worker" [("worker", .shown id.address)]

/-- The entry about a worker who is new. -/
def additionEntry (id : WorkerId) (status : Status) : Entry :=
  .write .info "added worker" [("worker", .shown id.address), ("status", .shown status.word)]

/-- A worker was seen with a status. An undefined status removes it, any other is set. -/
def track (r : Roster) (id : WorkerId) (status : Status) : Tracked :=
  if status.isUndefined then
    match r.remove id with
    | (r, true) => ⟨r, .removed, [.note (removalEntry id), .announce (.offline id)]⟩
    | (r, false) => ⟨r, .ignored, []⟩
  else
    match r.put id status with
    | (r, .created) => ⟨r, .added, [.note (additionEntry id status), statusEffect id status]⟩
    | (r, .updated _) => ⟨r, .updated, [statusEffect id status]⟩

/-- A worker who counts as gone is removed if it was known. -/
theorem track_of_isUndefined (r : Roster) (id : WorkerId) {status : Status}
    (h : status.isUndefined = true) :
    r.track id status =
      if r.contains id then
        ⟨r.erase id, .removed, [.note (removalEntry id), .announce (.offline id)]⟩
      else ⟨r, .ignored, []⟩ := by
  unfold track
  rw [if_pos h, remove_eq]
  cases hknown : r.contains id with
  | true => rfl
  | false =>
    rw [erase_of_not_contains hknown]
    rfl

/-- A worker who is seen is removed if it counts as gone, and has its status set otherwise. -/
theorem roster_track (r : Roster) (id : WorkerId) (status : Status) :
    (r.track id status).roster =
      if status = .undefined then r.erase id else (r.put id status).1 := by
  by_cases hstatus : status = .undefined
  · rw [track_of_isUndefined r id (Status.isUndefined_iff.2 hstatus), if_pos hstatus]
    split
    · rfl
    · next h => exact (erase_of_not_contains (Bool.eq_false_iff.2 h)).symm
  · unfold track
    rw [if_neg (mt Status.isUndefined_iff.1 hstatus), if_neg hstatus]
    split <;> next heq => rw [heq]

/-- Whoever is seen, nobody is there twice. -/
theorem IsDistinct.track {r : Roster} (h : r.IsDistinct) (id : WorkerId) (status : Status) :
    (r.track id status).roster.IsDistinct := by
  rw [roster_track]
  split
  · exact h.erase id
  · exact h.put id status

/-- Whoever is seen, nobody is undefined. -/
theorem IsDefinite.track {r : Roster} (h : r.IsDefinite) (id : WorkerId) (status : Status) :
    (r.track id status).roster.IsDefinite := by
  rw [roster_track]
  split
  · exact h.erase id
  · next hstatus => exact h.put id hstatus

/-- The roster after everybody was removed, how many they were, and what is to be done about it. -/
structure Dismissed where
  roster : Roster
  count : Nat
  effects : List Effect

/-- Everybody is gone: all are removed at once, and each of them is announced to be gone. -/
def dismiss (r : Roster) : Dismissed :=
  match r.drain with
  | (r, gone) => ⟨r, gone.length, gone.map fun w => .announce (.offline w.id)⟩

/-- Nobody is left when everybody is gone. -/
@[simp] theorem roster_dismiss (r : Roster) : r.dismiss.roster = empty :=
  rfl

/-- Everybody is announced to be gone, in order. -/
theorem announcements_dismiss (r : Roster) :
    announcements r.dismiss.effects = r.workers.map (.offline ·.id) := by
  unfold announcements dismiss
  rw [List.filterMap_map, ← List.filterMap_eq_map']
  rfl

end Roster

end WorkerRoster
