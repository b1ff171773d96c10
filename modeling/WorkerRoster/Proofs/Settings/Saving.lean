import WorkerRoster.Proofs.Json.Rendering
import WorkerRoster.Proofs.Settings.Direct

/-!
# Saving and Loading

Settings that are written as text and read again are what they were, whatever the room, the version
and the level are called and however much the bus keeps. A room that is not set is left out of the
text, and nothing else is put in its place on the way back.

## Main statement

- `Settings.load_render`: settings are loaded from a file that holds their text
-/

set_option autoImplicit false

namespace WorkerRoster

open Json

theorem DetectionSettings.isWhole_toValue (s : DetectionSettings) : s.toValue.IsWhole := by
  cases h : s.room <;> simp [toValue, h, Value.IsWhole, MembersWhole]

theorem DetectionSettings.read_toSource_toValue (s : DetectionSettings) (origin : Origin) :
    read origin s.toValue.toSource = .ok s := by
  obtain ⟨room, capacity⟩ := s
  cases room <;> rfl

theorem LogSettings.isWhole_toValue (s : LogSettings) : s.toValue.IsWhole := by
  simp [toValue, LogFormat.toValue, Value.IsWhole, MembersWhole]

theorem LogSettings.read_toSource_toValue (s : LogSettings) (origin : Origin) :
    read origin s.toValue.toSource = .ok s := by
  obtain ⟨level, format⟩ := s
  cases format <;> rfl

namespace Settings

theorem isWhole_toValue (s : Settings) : s.toValue.IsWhole := by
  simp [toValue, Value.IsWhole, MembersWhole, s.detector.isWhole_toValue,
    s.logging.isWhole_toValue]

theorem read_toSource_toValue (s : Settings) (origin : Origin) :
    read origin s.toValue.toSource = .ok s := by
  have hdetector := s.detector.read_toSource_toValue origin
  have hlogging := s.logging.read_toSource_toValue origin
  simp [toValue, Value.toSource, memberSources, read, Source.readMembers, readMember, Source.fill,
    Source.readText, hdetector, hlogging, Except.map, Draft.finish]

/-- The text of settings is JSON with two levels of objects. -/
theorem exists_ofText?_render (s : Settings) : ∃ d, Value.ofText? s.render = some d := by
  rw [render, Value.ofText?_render s.isWhole_toValue]
  obtain ⟨version, ⟨room, capacity⟩, level, format⟩ := s
  cases room <;> exact ⟨_, rfl⟩

theorem ofText_render (s : Settings) : ofText s.render = .ok s :=
  Document.read_ofText_render s.isWhole_toValue (s.read_toSource_toValue .text)

theorem fromUTF8?_toUTF8 (text : String) : String.fromUTF8? text.toUTF8 = some text :=
  dif_pos text.isValidUTF8

/-- Settings are read back from their text, and loaded from a file that holds it where nothing is
    set in the environment, unless they leave no capacity. -/
theorem load_render (s : Settings) (path : String) :
    ofText s.render = .ok s ∧
      (load ⟨path, .bytes s.render.toUTF8⟩ fun _ => none).1 =
        if s.detector.capacity = 0 then .error (.unusable .noCapacity) else .ok s := by
  obtain ⟨d, hvalue⟩ := s.exists_ofText?_render
  exact ⟨s.ofText_render,
    load_of_ofText rfl (fromUTF8?_toUTF8 s.render) hvalue s.ofText_render⟩

end Settings

end WorkerRoster
