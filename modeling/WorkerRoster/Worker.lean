import WorkerRoster.Text.Blank
import WorkerRoster.Text.Letters

/-!
# Workers

A worker is known by its address in the room and by the status it announced last. The address is
opaque: it is compared and handed on, never looked into.
-/

set_option autoImplicit false

namespace WorkerRoster

/-- The address of a worker. -/
structure WorkerId where
  address : String
  deriving DecidableEq, Repr

/-! ## Status -/

/-- What a worker announces about itself. -/
inductive Status where
  | idle
  | busy
  /-- The worker takes itself back: it counts as gone. -/
  | undefined
  /-- A word that means nothing here, as it was announced. -/
  | unrecognized (raw : String)
  deriving DecidableEq, Repr

namespace Status

/-- The status that a word stands for: blanks around it and the case of its letters do not count. -/
def ofWord (raw : String) : Status :=
  let word := Text.trim raw
  if Text.sameLetters word "idle" then .idle
  else if Text.sameLetters word "busy" then .busy
  else if Text.sameLetters word "undefined" then .undefined
  else .unrecognized raw

/-- The word that announces a status. -/
def word : Status → String
  | .idle => "IDLE"
  | .busy => "BUSY"
  | .undefined => "UNDEFINED"
  | .unrecognized raw => raw

/-- Whether the worker counts as gone. -/
def isUndefined : Status → Bool
  | .undefined => true
  | _ => false

theorem isUndefined_iff {s : Status} : s.isUndefined = true ↔ s = .undefined := by
  cases s <;> simp [isUndefined]

/-- Whether the worker takes jobs, none where the status says nothing about it. -/
def availability : Status → Option Bool
  | .idle => some true
  | .busy => some false
  | .undefined | .unrecognized _ => none

end Status

/-! ## Workers -/

/-- A worker as it is known. -/
structure Worker where
  id : WorkerId
  status : Status
  deriving DecidableEq, Repr

/-- Whether the worker is free. -/
def Worker.isIdle (w : Worker) : Bool :=
  w.status = .idle

end WorkerRoster
