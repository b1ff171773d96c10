import WorkerRoster.Worker

/-!
# Announcements

What is told to those who want to know about workers: that one is free or busy, and that one is
gone.
-/

set_option autoImplicit false

namespace WorkerRoster

/-- An announcement about a worker. -/
inductive Announcement where
  /-- The worker says whether it takes jobs. -/
  | availability (worker : WorkerId) (available : Bool)
  /-- The worker is gone. -/
  | offline (worker : WorkerId)
  deriving DecidableEq, Repr

namespace Announcement

/-- The worker it is about. -/
def worker : Announcement → WorkerId
  | .availability w _ | .offline w => w

/-- The kind of announcement, in one word. -/
def kind : Announcement → String
  | .availability _ _ => "availability_changed"
  | .offline _ => "went_offline"

/-- The topic under which it is routed. -/
def topic : Announcement → String
  | .availability _ _ => "brewery/worker/STATUS"
  | .offline _ => "brewery/worker/OFFLINE"

end Announcement

end WorkerRoster
