import WorkerRoster.Presence

/-!
# Notices about Members

A room tells its listeners what happens to its members. From such a notice follows what is known
about the status of a worker.
-/

set_option autoImplicit false

namespace WorkerRoster

/-- What happened to a member. -/
inductive NoticeKind where
  | joined
  | left
  | kicked
  | quit
  /-- The member shows something new. -/
  | changed
  deriving DecidableEq, Repr

namespace NoticeKind

/-- Whether the member is gone. -/
def isDeparture : NoticeKind → Bool
  | .left | .kicked | .quit => true
  | .joined | .changed => false

/-- The name of the kind in the journal. -/
def name : NoticeKind → String
  | .joined => "Joined"
  | .left => "Left"
  | .kicked => "Kicked"
  | .quit => "Quit"
  | .changed => "PropertyChanged"

end NoticeKind

/-- A member of a room. -/
structure Occupant where
  id : WorkerId
  /-- What it showed last, if it showed anything yet. -/
  presence : Option Presence
  deriving DecidableEq, Repr

/-- A notice about a member. -/
structure Notice where
  kind : NoticeKind
  occupant : Occupant
  deriving DecidableEq, Repr

/-- The status that a notice tells of. A departure always reads as `undefined`; of the others only
    those count whose presence announces a status. -/
def Notice.status? (n : Notice) : Option Status :=
  if n.kind.isDeparture then some .undefined
  else n.occupant.presence.bind Presence.status?

end WorkerRoster
