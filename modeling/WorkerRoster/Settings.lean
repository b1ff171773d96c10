import WorkerRoster.Text.Blank
import WorkerRoster.Text.Letters

/-!
# Settings

What can be set, and what holds where nothing is set. Without a room there is nothing to watch.
-/

set_option autoImplicit false

namespace WorkerRoster

/-- The form in which the journal is printed. -/
inductive LogFormat where
  | compact
  | json
  deriving DecidableEq, Repr

/-- The form that a word stands for: blanks around it and the case of its letters do not count. No
    letter of these words has a capital outside ASCII, so it is enough to look at ASCII letters. -/
def LogFormat.ofWord? (s : String) : Option LogFormat :=
  let word := Text.trim s
  if Text.sameLetters word "compact" || Text.sameLetters word "text" then some .compact
  else if Text.sameLetters word "json" then some .json
  else none

/-- The name of a form. -/
def LogFormat.name : LogFormat → String
  | .compact => "compact"
  | .json => "json"

/-- What is watched. -/
structure DetectionSettings where
  /-- The room that all workers gather in. -/
  room : Option String := none
  /-- How many announcements the bus keeps. -/
  capacity : UInt64 := 256
  deriving DecidableEq, Repr

/-- The name of the room without the blanks around it, none if it is not set or blank. -/
def DetectionSettings.roomName? (s : DetectionSettings) : Option String :=
  (s.room.map Text.trim).filter (· ≠ "")

/-- What is written down. -/
structure LogSettings where
  /-- Which entries are printed, as filter directives. -/
  level : String := "info"
  format : LogFormat := .compact
  deriving DecidableEq, Repr

/-- All settings. -/
structure Settings where
  /-- The version of the settings' form. -/
  version : String := "0.1.0"
  detector : DetectionSettings := {}
  logging : LogSettings := {}
  deriving DecidableEq, Repr

namespace Settings

/-- The settings where nothing is set. -/
def default : Settings := {}

/-- Why settings keep anyone from working. -/
inductive Unusable where
  /-- A bus that keeps nothing is of no use. -/
  | noCapacity
  deriving DecidableEq, Repr

/-- The wording of the reason. -/
def Unusable.message : Unusable → String
  | .noCapacity => "detector.eventCapacity must be at least 1"

/-- Why work is not possible with these settings, none if it is. -/
def unusable? (s : Settings) : Option Unusable :=
  if s.detector.capacity = 0 then some .noCapacity else none

end Settings

end WorkerRoster
