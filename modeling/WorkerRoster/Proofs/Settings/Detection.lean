import WorkerRoster.Monitor
import WorkerRoster.Proofs.Settings.Layers
import WorkerRoster.Proofs.Text.Trimming

/-!
# Whether There Is Anything to Watch

Without a room there is nothing to watch, and a blank room is none. Whether a room is blank is asked
three times: when it is taken from the environment, when its name is taken from the settings, and
when a monitor is made for it, and each time of another copy of it, with more or less of its blanks
taken off. The three agree on every room. So no monitor is refused that the settings ask for, and
the room that the environment names is the one that is watched.

## Main statements

- `Monitor.ofSettings_eq`: what monitor is made from settings
- `Monitor.ofSettings_agrees`: when a monitor is made, of which room, and what the environment has
  to do with it
-/

set_option autoImplicit false

namespace WorkerRoster

/-! ## Blank rooms -/

/-- Asking whether something is left of a text is asking whether it is blank. -/
theorem Text.trim_ne_empty (s : String) : decide (trim s ≠ "") = !isBlank s := by
  have hblank := trim_eq_empty_iff s
  cases h : isBlank s <;> simp_all

/-- A variable of the environment counts unless it is blank. -/
theorem Environment.value?_eq (env : Environment) (name : String) :
    env.value? name = (env name).filter (!Text.isBlank ·) := by
  unfold value?
  simp only [Text.trim_ne_empty]

/-- The room that is set has a name unless it is blank. -/
theorem DetectionSettings.roomName?_eq (s : DetectionSettings) :
    s.roomName? = (s.room.filter (!Text.isBlank ·)).map Text.trim := by
  unfold roomName?
  simp only [← Text.trim_ne_empty]
  cases s.room with
  | none => rfl
  | some room => simp [Option.filter_some, apply_ite]

namespace Monitor

/-! ## Making a monitor from settings -/

/-- No room name that is taken from settings is refused. -/
theorem create_of_roomName? {s : DetectionSettings} {name : String}
    (h : s.roomName? = some name) : create name = .ok { room := name } := by
  rw [DetectionSettings.roomName?_eq] at h
  obtain ⟨room, hroom, rfl⟩ := Option.map_eq_some_iff.1 h
  have hblank : Text.isBlank room = false := by simpa using (Option.filter_eq_some_iff.1 hroom).2
  -- the name has lost its blanks by now, the room that was looked at has not
  rw [create, Text.isBlank_trim, hblank]
  rfl

/-- A monitor is made for the room that is set, without the blanks around it, if there is anything
    left of it. -/
theorem ofSettings_eq (s : DetectionSettings) :
    ofSettings s =
      match s.room.filter (!Text.isBlank ·) with
      | none => (none, [.note disabledEntry])
      | some room => (some { room := Text.trim room }, []) := by
  unfold ofSettings
  cases hroom : s.room.filter (!Text.isBlank ·) with
  | none => simp [DetectionSettings.roomName?_eq, hroom]
  | some room =>
    have hname : s.roomName? = some (Text.trim room) := by
      rw [DetectionSettings.roomName?_eq, hroom, Option.map_some]
    simp only [hname, create_of_roomName? hname]
    rfl

/-- Nothing but the room decides whether there is a monitor. -/
theorem ofSettings_congr {s t : DetectionSettings} (h : s.room = t.room) :
    ofSettings s = ofSettings t := by
  rw [ofSettings_eq, ofSettings_eq, h]

theorem ofSettings_of_room {s : DetectionSettings} {room : String} (h : s.room = some room)
    (hblank : Text.isBlank room = false) :
    ofSettings s = (some { room := Text.trim room }, []) := by
  rw [ofSettings_eq, h, Option.filter_some, if_pos (by simp [hblank])]

/-- A monitor that is made watches the room that is set, which has something in it but blanks. -/
theorem exists_room_of_ofSettings {s : DetectionSettings} {m : Monitor}
    (h : (ofSettings s).1 = some m) :
    ∃ room, s.room = some room ∧ Text.isBlank room = false ∧ m = { room := Text.trim room } := by
  rw [ofSettings_eq] at h
  cases hroom : s.room.filter (!Text.isBlank ·) with
  | none => simp [hroom] at h
  | some room =>
    obtain ⟨hset, hblank⟩ := Option.filter_eq_some_iff.1 hroom
    rw [hroom] at h
    exact ⟨room, hset, by simpa using hblank, (Option.some.inj h).symm⟩

end Monitor

/-! ## The environment -/

namespace Settings

variable {s : Settings} {env : Environment}

theorem room_under (s : Settings) (env : Environment) :
    (s.under env).detector.room =
      ((env Environment.roomName).filter (!Text.isBlank ·)).or s.detector.room := by
  rw [← Environment.value?_eq]
  rfl

/-- A room that the environment names comes before any other. -/
theorem room_under_of_some {v : String} (h : env Environment.roomName = some v)
    (hblank : Text.isBlank v = false) : (s.under env).detector.room = some v := by
  rw [room_under, h, Option.filter_some, if_pos (by simp [hblank]), Option.some_or]

/-- A blank room in the environment is none. -/
theorem room_under_of_blank
    (h : ∀ v, env Environment.roomName = some v → Text.isBlank v = true) :
    (s.under env).detector.room = s.detector.room := by
  have hnone : (env Environment.roomName).filter (!Text.isBlank ·) = none := by
    rw [Option.filter_eq_none_iff]
    intro v hv
    simpa using h v hv
  rw [room_under, hnone, Option.none_or]

end Settings

/-- A monitor is made just if the room that is set has something in it but blanks. It watches that
    room without the blanks around it, and no name that is taken from settings is refused. Of
    settings that are loaded, a monitor is made for the room of the environment if that is not
    blank, and otherwise as if the settings were those of the file. -/
theorem Monitor.ofSettings_agrees :
    (∀ s : DetectionSettings,
      ((∃ m, (ofSettings s).1 = some m) ↔
        ∃ room, s.room = some room ∧ ∃ c ∈ room.toList, Text.isBlankChar c = false) ∧
      (∀ m, (ofSettings s).1 = some m →
        ∃ room, s.room = some room ∧ Text.TrimsTo room m.room ∧ m = { room := m.room }) ∧
      ∀ name, s.roomName? = some name → create name = .ok { room := name }) ∧
    ∀ (file : SettingsFile) (env : Environment) (s : Settings),
      (Settings.load file env).1 = .ok s →
      (∀ v, env Environment.roomName = some v → Text.isBlank v = false →
        ∃ m, ofSettings s.detector = (some m, []) ∧ Text.TrimsTo v m.room) ∧
      ((∀ v, env Environment.roomName = some v → Text.isBlank v = true) →
        ∃ written, Settings.ofFile file.content = .ok written ∧
          ofSettings s.detector = ofSettings written.detector) := by
  have hsome : ∀ room : String, Text.isBlank room = false ↔
      ∃ c ∈ room.toList, Text.isBlankChar c = false := by
    intro room
    simp [Text.isBlank]
  refine ⟨fun s => ⟨⟨?made, ?makes⟩, ?watches, fun _ => create_of_roomName?⟩, ?loaded⟩
  case made =>
    rintro ⟨m, hm⟩
    obtain ⟨room, hroom, hblank, -⟩ := exists_room_of_ofSettings hm
    exact ⟨room, hroom, (hsome room).1 hblank⟩
  case makes =>
    rintro ⟨room, hroom, hc⟩
    rw [ofSettings_of_room hroom ((hsome room).2 hc)]
    exact ⟨_, rfl⟩
  case watches =>
    intro m hm
    obtain ⟨room, hroom, -, rfl⟩ := exists_room_of_ofSettings hm
    exact ⟨room, hroom, (Text.trim_eq_iff room _).1 rfl, rfl⟩
  case loaded =>
    -- what is loaded is what the file comes to, under the environment
    intro file env s hload
    obtain ⟨written, hfile, rfl, -⟩ := Settings.exists_of_load hload
    constructor
    · intro v hv hblank
      rw [ofSettings_of_room (Settings.room_under_of_some hv hblank) hblank]
      exact ⟨_, rfl, (Text.trim_eq_iff v _).1 rfl⟩
    · intro hblank
      exact ⟨written, hfile, ofSettings_congr (Settings.room_under_of_blank hblank)⟩

/-- A file names a room with blanks around it, and an environment names another one. That one is
    watched, and the room of the file where the variable is set to blanks. -/
theorem Monitor.ofSettings_agrees_named :
    ∃ (file : SettingsFile) (env blank : Environment) (s t : Settings),
      env Environment.roomName = some "\u00a0b@muc\n" ∧ (Settings.load file env).1 = .ok s ∧
      ofSettings s.detector = (some { room := "b@muc" }, []) ∧
      blank Environment.roomName = some "\t\u3000" ∧ (Settings.load file blank).1 = .ok t ∧
      (ofSettings t.detector).1 = some { room := "a@muc" } := by
  let env : Environment := fun name =>
    if name = Environment.roomName then some "\u00a0b@muc\n" else none
  let blank : Environment := fun name =>
    if name = Environment.roomName then some "\t\u3000" else none
  let file : SettingsFile :=
    ⟨"settings.json", .bytes "\x7b\"detector\": \x7b\"room\": \" a@muc \"\x7d\x7d".toUTF8⟩
  let written : Settings := { detector := { room := some " a@muc " } }
  -- neither environment takes away the capacity, so both load
  have hfile : Settings.ofFile file.content = .ok written :=
    Settings.ofFile_of_text file.path (by decide +kernel)
  have hload : ∀ env, (written.under env).detector.capacity ≠ 0 →
      (Settings.load file env).1 = .ok (written.under env) := by
    intro env hsome
    rw [Settings.load_eq, hfile]
    exact if_neg hsome
  have hloadEnv := hload env (by decide +kernel)
  have hloadBlank := hload blank (by decide +kernel)
  obtain ⟨hsettings, hloads⟩ := ofSettings_agrees
  refine ⟨file, env, blank, _, _, rfl, hloadEnv, ?_, rfl, hloadBlank, ?_⟩
  · -- the room of the environment
    obtain ⟨m, hm, htrims⟩ := (hloads file env _ hloadEnv).1 _ rfl (by decide)
    obtain ⟨-, hwatches, -⟩ := hsettings (written.under env).detector
    obtain ⟨-, -, -, hfresh⟩ := hwatches m (congrArg Prod.fst hm)
    have hroom : m.room = "b@muc" := ((Text.trim_eq_iff _ _).2 htrims).symm.trans (by decide)
    rw [hm, hfresh, hroom]
  · -- blanks are as good as nothing, so it is the room of the file
    obtain ⟨other, hother, hsame⟩ := (hloads file blank _ hloadBlank).2 fun v hv => by
      obtain rfl : "\t\u3000" = v := Option.some.inj hv
      decide
    obtain rfl : written = other := Except.ok.inj (hfile.symm.trans hother)
    obtain ⟨hmade, hwatches, -⟩ := hsettings written.detector
    obtain ⟨n, hn⟩ := hmade.2 ⟨" a@muc ", rfl, 'a', by decide, by decide⟩
    obtain ⟨room, hset, htrims, hfresh⟩ := hwatches n hn
    obtain rfl : " a@muc " = room := Option.some.inj hset
    have hroom : n.room = "a@muc" := ((Text.trim_eq_iff _ _).2 htrims).symm.trans (by decide)
    rw [hsame, hn, hfresh, hroom]

end WorkerRoster
