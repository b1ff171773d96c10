import WorkerRoster.Proofs.Json.Members
import WorkerRoster.Settings.Wire

/-!
# The Fields of Settings

The sections of settings and the settings as a whole are read slot by slot. Here are the slots, and
what a reader makes of an object in key order: it looks up the known keys one after the other.

## Main statements

- `DetectionSettings.read_toSource`, `LogSettings.read_toSource`, `Settings.read_toSource`: objects
  in key order, field by field
-/

set_option autoImplicit false

namespace WorkerRoster

open Json Json.Source

variable {members : List (String × Value)}

/-! ## What is watched -/

namespace DetectionSettings

def roomSlot : Slot readMember (Option String) where
  key := "room"
  read := readOptional readText
  get := Draft.room
  set d room := { d with room }
  own _ _ := rfl
  get_set _ _ := rfl
  others state state' k s hk h := by
    -- the reader goes by the key: another key fills another slot, or none
    unfold readMember at h
    split at h
    · exact absurd rfl hk
    · exact keeps_of_map h fun _ => rfl
    · cases h

def capacitySlot : Slot readMember UInt64 where
  key := "eventCapacity"
  read := readCount
  get := Draft.capacity
  set d capacity := { d with capacity }
  own _ _ := rfl
  get_set _ _ := rfl
  others state state' k s hk h := by
    unfold readMember at h
    split at h
    · exact keeps_of_map h fun _ => rfl
    · exact absurd rfl hk
    · cases h

theorem readMember_of_unknown (d : Draft) {key : String} (s : Source)
    (h : key ∉ ["eventCapacity", "room"]) : readMember d key s = none := by
  unfold readMember
  split
  · simp at h
  · simp at h
  · rfl

theorem read_toSource (origin : Origin) (h : Keyed.Ascending members) :
    read origin (Value.object members).toSource = do
      let capacity ← readGiven readCount (members.lookup "eventCapacity")
      let room ← readGiven (readOptional readText) (members.lookup "room")
      return Draft.finish ⟨room, capacity⟩ := by
  -- other members are skipped, so what counts is the known keys, in the order of keys
  have hread : read origin (Value.object members).toSource =
      (readKeys readMember ["eventCapacity", "room"] members {} >>= fun d => .ok d.finish) := by
    rw [← readMembers_memberSources (by decide) (fun d key s => readMember_of_unknown d s) h]
    rfl
  -- every key fills its own slot, and leaves what the keys before it have filled
  have hcapacity : readKey readMember members {} "eventCapacity" =
      (readGiven readCount (members.lookup "eventCapacity")).map fun capacity => { capacity } :=
    capacitySlot.readKey_eq rfl rfl members
  have hroom : ∀ capacity, readKey readMember members { capacity } "room" =
      (readGiven (readOptional readText) (members.lookup "room")).map
        fun room => ⟨room, capacity⟩ :=
    fun _ => roomSlot.readKey_eq rfl rfl members
  rw [hread]
  simp only [readKeys, List.foldlM_cons, List.foldlM_nil, hcapacity, hroom, Reading.map_bind,
    bind_assoc, pure_bind]
  rfl

end DetectionSettings

/-! ## What is written down -/

namespace LogSettings

variable (origin : Origin)

def levelSlot : Slot (readMember origin) String where
  key := "level"
  read := readText
  get := Draft.level
  set d level := { d with level }
  own _ _ := rfl
  get_set _ _ := rfl
  others state state' k s hk h := by
    unfold readMember at h
    split at h
    · exact absurd rfl hk
    · exact keeps_of_map h fun _ => rfl
    · cases h

def formatSlot : Slot (readMember origin) LogFormat where
  key := "format"
  read := LogFormat.read origin
  get := Draft.format
  set d format := { d with format }
  own _ _ := rfl
  get_set _ _ := rfl
  others state state' k s hk h := by
    unfold readMember at h
    split at h
    · exact keeps_of_map h fun _ => rfl
    · exact absurd rfl hk
    · cases h

theorem readMember_of_unknown (d : Draft) {key : String} (s : Source)
    (h : key ∉ ["format", "level"]) : readMember origin d key s = none := by
  -- there is a branch for each known key, and one for the rest
  unfold readMember
  split
  · simp at h
  · simp at h
  · rfl

theorem read_toSource (h : Keyed.Ascending members) :
    read origin (Value.object members).toSource = do
      let format ← readGiven (LogFormat.read origin) (members.lookup "format")
      let level ← readGiven readText (members.lookup "level")
      return Draft.finish ⟨level, format⟩ := by
  -- the form comes before the level, as their keys do, so it is the first to be refused
  have hread : read origin (Value.object members).toSource =
      (readKeys (readMember origin) ["format", "level"] members {} >>= fun d => .ok d.finish) := by
    rw [← readMembers_memberSources (by decide)
      (fun d key s => readMember_of_unknown origin d s) h]
    rfl
  -- only the form depends on where the document comes from
  have hformat : readKey (readMember origin) members {} "format" =
      (readGiven (LogFormat.read origin) (members.lookup "format")).map fun format => { format } :=
    (formatSlot origin).readKey_eq rfl rfl members
  have hlevel : ∀ format, readKey (readMember origin) members { format } "level" =
      (readGiven readText (members.lookup "level")).map fun level => ⟨level, format⟩ :=
    fun _ => (levelSlot origin).readKey_eq rfl rfl members
  rw [hread]
  simp only [readKeys, List.foldlM_cons, List.foldlM_nil, hformat, hlevel, Reading.map_bind,
    bind_assoc, pure_bind]
  rfl

end LogSettings

/-! ## All settings -/

namespace Settings

variable (origin : Origin)

def versionSlot : Slot (readMember origin) String where
  key := "version"
  read := readText
  get := Draft.version
  set d version := { d with version }
  own _ _ := rfl
  get_set _ _ := rfl
  others state state' k s hk h := by
    unfold readMember at h
    split at h
    · exact absurd rfl hk
    · exact keeps_of_map h fun _ => rfl
    · exact keeps_of_map h fun _ => rfl
    · cases h

def detectorSlot : Slot (readMember origin) DetectionSettings where
  key := "detector"
  read := DetectionSettings.read origin
  get := Draft.detector
  set d detector := { d with detector }
  own _ _ := rfl
  get_set _ _ := rfl
  others state state' k s hk h := by
    -- three keys are known here; this slot's own is the one that is out of the question
    unfold readMember at h
    split at h
    · exact keeps_of_map h fun _ => rfl
    · exact absurd rfl hk
    · exact keeps_of_map h fun _ => rfl
    · cases h

def loggingSlot : Slot (readMember origin) LogSettings where
  key := "logging"
  read := LogSettings.read origin
  get := Draft.logging
  set d logging := { d with logging }
  own _ _ := rfl
  get_set _ _ := rfl
  others state state' k s hk h := by
    unfold readMember at h
    split at h
    · exact keeps_of_map h fun _ => rfl
    · exact keeps_of_map h fun _ => rfl
    · exact absurd rfl hk
    · cases h

theorem readMember_of_unknown (d : Draft) {key : String} (s : Source)
    (h : key ∉ ["detector", "logging", "version"]) : readMember origin d key s = none := by
  unfold readMember
  split
  · simp at h
  · simp at h
  · simp at h
  · rfl

theorem read_toSource (h : Keyed.Ascending members) :
    read origin (Value.object members).toSource = do
      let detector ← readGiven (DetectionSettings.read origin) (members.lookup "detector")
      let logging ← readGiven (LogSettings.read origin) (members.lookup "logging")
      let version ← readGiven readText (members.lookup "version")
      return Draft.finish ⟨version, detector, logging⟩ := by
  -- the sections are read before the version, again in the order of keys
  have hread : read origin (Value.object members).toSource =
      (readKeys (readMember origin) ["detector", "logging", "version"] members {} >>=
        fun d => .ok d.finish) := by
    rw [← readMembers_memberSources (by decide)
      (fun d key s => readMember_of_unknown origin d s) h]
    rfl
  -- a section is a slot like any other, whose reader is that of the section
  have hdetector : readKey (readMember origin) members {} "detector" =
      (readGiven (DetectionSettings.read origin) (members.lookup "detector")).map
        fun detector => { detector } :=
    (detectorSlot origin).readKey_eq rfl rfl members
  have hlogging : ∀ detector, readKey (readMember origin) members { detector } "logging" =
      (readGiven (LogSettings.read origin) (members.lookup "logging")).map
        fun logging => { detector, logging } :=
    fun _ => (loggingSlot origin).readKey_eq rfl rfl members
  have hversion : ∀ detector logging,
      readKey (readMember origin) members { detector, logging } "version" =
        (readGiven readText (members.lookup "version")).map
          fun version => ⟨version, detector, logging⟩ :=
    fun _ _ => (versionSlot origin).readKey_eq rfl rfl members
  -- a key that is refused ends the reading, and those behind it are not looked at
  rw [hread]
  simp only [readKeys, List.foldlM_cons, List.foldlM_nil, hdetector, hlogging, hversion,
    Reading.map_bind, bind_assoc, pure_bind]
  rfl

end Settings

end WorkerRoster
