import WorkerRoster.Json.Decode
import WorkerRoster.Json.Printer
import WorkerRoster.Settings

/-!
# Settings as JSON

The written form of settings, and its reader. Every section and every field may be left out.
-/

set_option autoImplicit false

namespace WorkerRoster

open Json

/-! ## The form of the journal -/

/-- The forms by name. -/
def LogFormat.choices : List (String × LogFormat) :=
  [("compact", .compact), ("json", .json)]

/-- A form as a JSON value. -/
def LogFormat.toValue (f : LogFormat) : Value :=
  .text f.name

/-- Read a form. -/
def LogFormat.read (origin : Origin) : Source → Reading LogFormat :=
  Source.readChoice origin choices

/-! ## What is watched -/

namespace DetectionSettings

/-- The section as a JSON value; a room that is not set is left out. -/
def toValue (s : DetectionSettings) : Value :=
  let capacity := ("eventCapacity", Value.number (.natural s.capacity))
  match s.room with
  | some room => .object [("room", .text room), capacity]
  | none => .object [capacity]

/-- The fields that have been read. -/
structure Draft where
  room : Option (Option String) := none
  capacity : Option UInt64 := none

/-- The section whose fields have been read. -/
def Draft.finish (d : Draft) : DetectionSettings :=
  let base : DetectionSettings := {}
  ⟨d.room.getD base.room, d.capacity.getD base.capacity⟩

/-- Read one member. -/
def readMember (d : Draft) (key : String) (s : Source) : Option (Reading Draft) :=
  match key with
  | "room" =>
    some ((Source.fill key d.room (Source.readOptional Source.readText) s).map
      fun v => { d with room := v })
  | "eventCapacity" =>
    some ((Source.fill key d.capacity Source.readCount s).map fun v => { d with capacity := v })
  | _ => none

/-- Read the section. -/
def read (origin : Origin) : Source → Reading DetectionSettings
  | .object members ending => do
    return (← Source.readMembers readMember {} ending members).finish
  | .array items ending => do
    let base : DetectionSettings := {}
    let (room, rest) ←
      Source.itemOr ending (Source.readOptional Source.readText) (.ok base.room) items
    let (capacity, rest) ← Source.itemOr ending Source.readCount (.ok base.capacity) rest
    Source.endItems origin items.length ending rest
    return ⟨room, capacity⟩
  | s => .error (s.mismatch "struct DetectorSettings")

/-- Read the section from a text of its own. -/
def ofText (s : String) : Reading DetectionSettings :=
  (Document.ofText s).read (read .text)

end DetectionSettings

/-! ## What is written down -/

namespace LogSettings

/-- The section as a JSON value. -/
def toValue (s : LogSettings) : Value :=
  .object [("level", .text s.level), ("format", s.format.toValue)]

/-- The fields that have been read. -/
structure Draft where
  level : Option String := none
  format : Option LogFormat := none

/-- The section whose fields have been read. -/
def Draft.finish (d : Draft) : LogSettings :=
  let base : LogSettings := {}
  ⟨d.level.getD base.level, d.format.getD base.format⟩

/-- Read one member. -/
def readMember (origin : Origin) (d : Draft) (key : String) (s : Source) : Option (Reading Draft) :=
  match key with
  | "level" =>
    some ((Source.fill key d.level Source.readText s).map fun v => { d with level := v })
  | "format" =>
    some ((Source.fill key d.format (LogFormat.read origin) s).map
      fun v => { d with format := v })
  | _ => none

/-- Read the section. -/
def read (origin : Origin) : Source → Reading LogSettings
  | .object members ending => do
    return (← Source.readMembers (readMember origin) {} ending members).finish
  | .array items ending => do
    let base : LogSettings := {}
    let (level, rest) ← Source.itemOr ending Source.readText (.ok base.level) items
    let (format, rest) ← Source.itemOr ending (LogFormat.read origin) (.ok base.format) rest
    Source.endItems origin items.length ending rest
    return ⟨level, format⟩
  | s => .error (s.mismatch "struct LoggingSettings")

end LogSettings

/-! ## All settings -/

namespace Settings

/-- Settings as a JSON value. -/
def toValue (s : Settings) : Value :=
  .object
    [("version", .text s.version), ("detector", s.detector.toValue),
     ("logging", s.logging.toValue)]

/-- The compact text of settings. -/
def render (s : Settings) : String :=
  s.toValue.render

/-- The fields that have been read. -/
structure Draft where
  version : Option String := none
  detector : Option DetectionSettings := none
  logging : Option LogSettings := none

/-- The settings whose fields have been read. -/
def Draft.finish (d : Draft) : Settings :=
  ⟨d.version.getD default.version, d.detector.getD default.detector,
    d.logging.getD default.logging⟩

/-- Read one member. -/
def readMember (origin : Origin) (d : Draft) (key : String) (s : Source) : Option (Reading Draft) :=
  match key with
  | "version" =>
    some ((Source.fill key d.version Source.readText s).map fun v => { d with version := v })
  | "detector" =>
    some ((Source.fill key d.detector (DetectionSettings.read origin) s).map
      fun v => { d with detector := v })
  | "logging" =>
    some ((Source.fill key d.logging (LogSettings.read origin) s).map
      fun v => { d with logging := v })
  | _ => none

/-- Read settings. -/
def read (origin : Origin) : Source → Reading Settings
  | .object members ending => do
    return (← Source.readMembers (readMember origin) {} ending members).finish
  | .array items ending => do
    let (version, rest) ← Source.itemOr ending Source.readText (.ok default.version) items
    let (detector, rest) ←
      Source.itemOr ending (DetectionSettings.read origin) (.ok default.detector) rest
    let (logging, rest) ←
      Source.itemOr ending (LogSettings.read origin) (.ok default.logging) rest
    Source.endItems origin items.length ending rest
    return ⟨version, detector, logging⟩
  | s => .error (s.mismatch "struct BrewerySettings")

/-- Read settings from a text. -/
def ofText (s : String) : Reading Settings :=
  (Document.ofText s).read (read .text)

/-- Read settings from a value that has been read before. -/
def ofValue (v : Value) : Reading Settings :=
  read .value v.toSource

end Settings

end WorkerRoster
