import WorkerRoster.Decimal.Whole
import WorkerRoster.Journal
import WorkerRoster.Settings

/-!
# Settings from the Environment

Variables of the environment come before anything that is written in the settings file. A variable
that is blank counts as not set, and one that cannot be used is written down and left aside.
-/

set_option autoImplicit false

namespace WorkerRoster

/-- The variables of the environment that are set. -/
abbrev Environment := String → Option String

namespace Environment

/-- The variable that names the room. -/
def roomName : String := "BREWERY_ROOM"

/-- The variable that holds the filter directives of the journal. -/
def levelName : String := "BREWERY_LOG_LEVEL"

/-- The variable that holds the form of the journal. -/
def formatName : String := "BREWERY_LOG_FORMAT"

/-- The variable that holds the capacity of the bus. -/
def capacityName : String := "BREWERY_EVENT_CAPACITY"

/-- The largest capacity that can be set by a variable. -/
def maxCapacity : Nat := 1000000

/-- The value of a variable, none if it is blank. -/
def value? (env : Environment) (name : String) : Option String :=
  (env name).filter fun v => Text.trim v ≠ ""

end Environment

namespace Settings

/-- The entry about a variable that cannot be used. -/
def uselessEntry (message name value : String) : Entry :=
  .write .warn message [("key", .text name), ("value", .shown value)]

/-- Take the room from the environment. -/
def withRoom (env : Environment) (s : Settings) : Settings :=
  match env.value? Environment.roomName with
  | some room => { s with detector := { s.detector with room := some room } }
  | none => s

/-- Take the filter directives of the journal from the environment. -/
def withLevel (env : Environment) (s : Settings) : Settings :=
  match env.value? Environment.levelName with
  | some level => { s with logging := { s.logging with level } }
  | none => s

/-- Take the form of the journal from the environment. -/
def withFormat (env : Environment) (s : Settings) : Settings × Journal :=
  match env.value? Environment.formatName with
  | some v =>
    match LogFormat.ofWord? v with
    | some format => ({ s with logging := { s.logging with format } }, [])
    | none =>
      (s, [uselessEntry "invalid log format env var, ignoring" Environment.formatName v])
  | none => (s, [])

/-- Take the capacity of the bus from the environment. -/
def withCapacity (env : Environment) (s : Settings) : Settings × Journal :=
  match env.value? Environment.capacityName with
  | some v =>
    match Decimal.wholeWithin? 1 Environment.maxCapacity v with
    | some n => ({ s with detector := { s.detector with capacity := n.toUInt64 } }, [])
    | none => (s, [uselessEntry "invalid usize env var, ignoring" Environment.capacityName v])
  | none => (s, [])

/-- Take everything from the environment that is set there. -/
def withEnvironment (env : Environment) (s : Settings) : Settings × Journal :=
  let (s, formatNotes) := withFormat env (withLevel env (withRoom env s))
  let (s, capacityNotes) := withCapacity env s
  (s, formatNotes ++ capacityNotes)

end Settings

end WorkerRoster
