import WorkerRoster.LogFilter
import WorkerRoster.Settings.Shared

/-!
# An Application

What an application decides once while it runs: its settings, and how its journal is printed.
There is one place for somebody who follows the journal from outside, and it is taken for good by
the first who captures the journal or has it printed.
-/

set_option autoImplicit false

namespace WorkerRoster

/-- What an application has decided. -/
structure Application where
  settings : SharedSettings := none
  /-- Whether somebody has captured the journal or has it printed. -/
  isFollowed : Bool := false

namespace Application

/-- Ask for the settings, and capture what the journal tells of it. -/
def askSettings (a : Application) (file : SettingsFile) (env : Environment) :
    Application × Settings × Journal :=
  let (settings, s, journal) := a.settings.get.answer file env
  ({ settings, isFollowed := true }, s, journal)

/-- Give the application its settings; they come back if others are decided already. -/
def giveSettings (a : Application) (s : Settings) : Application × Except Settings Unit :=
  let (settings, outcome) := a.settings.give s
  ({ a with settings }, outcome)

/-- Have the journal printed: how much of it then is, none if somebody follows the journal
    already. -/
def printJournal (a : Application) (env : Environment) (level : String) :
    Application × Option Verbosity :=
  ({ a with isFollowed := true },
    if a.isFollowed then none else some (LogFilter.choose env level).maxVerbosity)

end Application

end WorkerRoster
