import WorkerRoster.Settings.Load

/-!
# Settings of a Process

A process decides on its settings once: it is given them, or it loads them when they are first
asked for. From then on nothing changes them.
-/

set_option autoImplicit false

namespace WorkerRoster

/-- The settings of a process, none before they are decided. -/
abbrev SharedSettings := Option Settings

namespace SharedSettings

/-- The entry about settings that could not be loaded. -/
def failureEntry (e : LoadError) : Entry :=
  .write .warn "failed to load settings, using defaults" [("error", .shown e.message)]

/-- Settings that were loaded, or what holds where nothing is set if they could not be. -/
def orDefault : Except LoadError Settings × Journal → Settings × Journal
  | (.ok s, journal) => (s, journal)
  | (.error e, journal) => (Settings.default, journal ++ [failureEntry e])

/-- Ask for the settings, which are loaded if they are not decided yet. -/
def get (shared : SharedSettings) : Inquiry (SharedSettings × Settings × Journal) :=
  match shared with
  | some s => .done (shared, s, [])
  | none =>
    Settings.loading.map fun loaded =>
      let (s, journal) := orDefault loaded
      (some s, s, journal)

/-- Give the process its settings; they come back if others are decided already. -/
def give (shared : SharedSettings) (s : Settings) : SharedSettings × Except Settings Unit :=
  match shared with
  | some _ => (shared, .error s)
  | none => (some s, .ok ())

end SharedSettings

end WorkerRoster
