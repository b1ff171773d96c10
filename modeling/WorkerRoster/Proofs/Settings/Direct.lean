import WorkerRoster.Proofs.Json.Rereading
import WorkerRoster.Proofs.Settings.Layers

/-!
# Settings Read at Once

Settings can be read from a text at once. Loading goes a longer way: the text becomes a value, the
value is laid over the base document, and what has come of it is read. Here it is shown that nothing
changes on that way, however the settings are written: sections as objects or as arrays, fields in
any order, left out or, where that is possible, `null`.

## Main statements

- `Settings.rereads_read`: settings read from a text are read from its value, too
- `Settings.underlies_baseDocument`: they are still there over the base document
- `Settings.load_of_ofText`: settings that can be read at once are loaded
-/

set_option autoImplicit false

namespace WorkerRoster

open Json Json.Source

/-! ## Text and value -/

theorem DetectionSettings.rereads_read : Rereads read := by
  intro depth s v a hv hread
  cases s with
  | object members ending =>
    obtain ⟨rfl, vs, hvs, rfl, ascending⟩ := exists_of_value?_object hv
    obtain ⟨d, hd, ha⟩ := Reading.of_bind_eq_ok hread
    -- in the text and in the value, each slot gets what the last member of its key says
    have hcapacity : readGiven readCount (vs.lookup "eventCapacity") = .ok d.capacity :=
      capacitySlot.readGiven_of_filled rereads_readCount rfl rfl hvs hd
    have hroom : readGiven (readOptional readText) (vs.lookup "room") = .ok d.room :=
      roomSlot.readGiven_of_filled rereads_readText.readOptional rfl rfl hvs hd
    rw [read_toSource .value ascending, hcapacity, hroom]
    exact ha
  | array items ending =>
    obtain ⟨rfl, vs, hvs, rfl⟩ := exists_of_value?_array hv
    obtain ⟨⟨room, afterRoom⟩, hroom, hread⟩ := Reading.of_bind_eq_ok hread
    obtain ⟨⟨capacity, afterCapacity⟩, hcapacity, hread⟩ := Reading.of_bind_eq_ok hread
    obtain ⟨⟨⟩, hend, ha⟩ := Reading.of_bind_eq_ok hread
    -- item after item, with what is left behind each
    obtain ⟨vs₁, hvs₁, hroom⟩ := itemOr_itemSources rereads_readText.readOptional hvs hroom
    obtain ⟨vs₂, hvs₂, hcapacity⟩ := itemOr_itemSources rereads_readCount hvs₁ hcapacity
    have hend := endItems_itemSources hvs₂ hend (itemSources vs).length
    unfold read Value.toSource
    simp only [hroom, hcapacity, hend, bind, Except.bind]
    exact ha
  | null | bool _ | number _ | text _ | unreadable | broken => cases hread

theorem LogFormat.rereads_read : Rereads read :=
  rereads_readChoice choices

theorem LogSettings.rereads_read : Rereads read := by
  intro depth s v a hv hread
  cases s with
  | object members ending =>
    obtain ⟨rfl, vs, hvs, rfl, ascending⟩ := exists_of_value?_object hv
    obtain ⟨d, hd, ha⟩ := Reading.of_bind_eq_ok hread
    have hformat : readGiven (LogFormat.read .value) (vs.lookup "format") = .ok d.format :=
      (formatSlot .text).readGiven_of_filled LogFormat.rereads_read rfl rfl hvs hd
    have hlevel : readGiven readText (vs.lookup "level") = .ok d.level :=
      (levelSlot .text).readGiven_of_filled rereads_readText rfl rfl hvs hd
    rw [read_toSource .value ascending, hformat, hlevel]
    exact ha
  | array items ending =>
    obtain ⟨rfl, vs, hvs, rfl⟩ := exists_of_value?_array hv
    obtain ⟨⟨level, afterLevel⟩, hlevel, hread⟩ := Reading.of_bind_eq_ok hread
    obtain ⟨⟨format, afterFormat⟩, hformat, hread⟩ := Reading.of_bind_eq_ok hread
    obtain ⟨⟨⟩, hend, ha⟩ := Reading.of_bind_eq_ok hread
    obtain ⟨vs₁, hvs₁, hlevel⟩ := itemOr_itemSources rereads_readText hvs hlevel
    obtain ⟨vs₂, hvs₂, hformat⟩ := itemOr_itemSources LogFormat.rereads_read hvs₁ hformat
    have hend := endItems_itemSources hvs₂ hend (itemSources vs).length
    unfold read Value.toSource
    simp only [hlevel, hformat, hend, bind, Except.bind]
    exact ha
  | null | bool _ | number _ | text _ | unreadable | broken => cases hread

namespace Settings

/-- Settings that are read from a text are read from its value, too. -/
theorem rereads_read : Rereads read := by
  intro depth s v a hv hread
  cases s with
  | object members ending =>
    obtain ⟨rfl, vs, hvs, rfl, ascending⟩ := exists_of_value?_object hv
    obtain ⟨d, hd, ha⟩ := Reading.of_bind_eq_ok hread
    have hdetector : readGiven (DetectionSettings.read .value) (vs.lookup "detector") =
        .ok d.detector :=
      (detectorSlot .text).readGiven_of_filled DetectionSettings.rereads_read rfl rfl hvs hd
    have hlogging : readGiven (LogSettings.read .value) (vs.lookup "logging") = .ok d.logging :=
      (loggingSlot .text).readGiven_of_filled LogSettings.rereads_read rfl rfl hvs hd
    have hversion : readGiven readText (vs.lookup "version") = .ok d.version :=
      (versionSlot .text).readGiven_of_filled rereads_readText rfl rfl hvs hd
    rw [read_toSource .value ascending, hdetector, hlogging, hversion]
    exact ha
  | array items ending =>
    obtain ⟨rfl, vs, hvs, rfl⟩ := exists_of_value?_array hv
    obtain ⟨⟨version, afterVersion⟩, hversion, hread⟩ := Reading.of_bind_eq_ok hread
    obtain ⟨⟨detector, afterDetector⟩, hdetector, hread⟩ := Reading.of_bind_eq_ok hread
    obtain ⟨⟨logging, afterLogging⟩, hlogging, hread⟩ := Reading.of_bind_eq_ok hread
    obtain ⟨⟨⟩, hend, ha⟩ := Reading.of_bind_eq_ok hread
    obtain ⟨vs₁, hvs₁, hversion⟩ := itemOr_itemSources rereads_readText hvs hversion
    obtain ⟨vs₂, hvs₂, hdetector⟩ :=
      itemOr_itemSources DetectionSettings.rereads_read hvs₁ hdetector
    obtain ⟨vs₃, hvs₃, hlogging⟩ := itemOr_itemSources LogSettings.rereads_read hvs₂ hlogging
    have hend := endItems_itemSources hvs₃ hend (itemSources vs).length
    unfold read Value.toSource
    simp only [hversion, hdetector, hlogging, hend, bind, Except.bind]
    exact ha
  | null | bool _ | number _ | text _ | unreadable | broken => cases hread

theorem ofValue_of_ofText {text : String} {d : Value} {s : Settings}
    (hvalue : Value.ofText? text = some d) (h : ofText text = .ok s) : ofValue d = .ok s := by
  unfold ofText Document.read at h
  unfold Value.ofText? Document.value? at hvalue
  -- both ways begin with the same tree, and want nothing behind it
  cases hread : read .text (Document.ofText text).root with
  | error fault => simp [hread] at h
  | ok s' =>
    simp only [hread] at h
    split at hvalue
    · next hends =>
      rw [if_pos hends] at h
      cases h
      exact rereads_read _ _ d s hvalue hread
    · cases hvalue

end Settings

/-! ## Over the base document -/

namespace Json.Source

variable {α : Type} {read : Source → Reading α} {members : List (String × Value)} {key : String}

/-- A reader that refuses `null` has read what is given. -/
theorem given?_of_readGiven (refuses : ∃ fault, read .null = .error fault) {after : Option α}
    (h : readGiven read (members.lookup key) = .ok after) :
    (Value.object members).given? key = members.lookup key := by
  rw [Value.given?_object]
  cases hlookup : members.lookup key with
  | none => rfl
  | some v =>
    cases v with
    | null =>
      obtain ⟨fault, hfault⟩ := refuses
      rw [hlookup] at h
      simp [readGiven, Value.toSource, hfault, Except.map] at h
    | bool _ | number _ | text _ | array _ | object _ => rfl

theorem readOr_of_readGiven {given : Option Value} {after : Option α} (otherwise : α)
    (h : readGiven read given = .ok after) :
    readOr read otherwise given = .ok (after.getD otherwise) := by
  cases given with
  | none =>
    cases h
    rfl
  | some v =>
    obtain ⟨a, hread, rfl⟩ := Reading.of_map_eq_ok h
    exact hread

/-- What may be `null` may as well be left out. -/
theorem readOr_of_readOptional {after : Option (Option α)}
    (h : readGiven (readOptional read) (members.lookup key) = .ok after) :
    readOr (fun s => (read s).map some) none ((Value.object members).given? key) =
      .ok (after.getD none) := by
  rw [Value.given?_object]
  cases hlookup : members.lookup key with
  | none =>
    rw [hlookup] at h
    cases h
    rfl
  | some v =>
    rw [hlookup] at h
    cases hnull : v.isNull with
    | true =>
      cases v with
      | null =>
        cases h
        rfl
      | bool _ | number _ | text _ | array _ | object _ => cases hnull
    | false =>
      rw [readGiven, readOptional_toSource hnull] at h
      obtain ⟨_, hsome, rfl⟩ := Reading.of_map_eq_ok h
      rw [Option.filter_some_pos (by simp [hnull])]
      exact hsome

/-- What is read from a document is still read when it has been laid over a base. -/
def Underlies (base : Value) (read : Source → Reading α) : Prop :=
  ∀ (v : Value) (a : α), v.IsOrdered → read v.toSource = .ok a →
    read (base.overlay v).toSource = .ok a

end Json.Source

theorem DetectionSettings.underlies_baseSection : Underlies baseSection (read .value) := by
  intro v a ordered hread
  cases v with
  | object members =>
    have ascending := ordered.ascending
    rw [read_toSource .value ascending] at hread
    obtain ⟨capacity, hcapacity, hread⟩ := Reading.of_bind_eq_ok hread
    obtain ⟨room, hroom, ha⟩ := Reading.of_bind_eq_ok hread
    -- a capacity that is null would not have been read, a room that is null is none
    rw [read_overlay ascending, given?_of_readGiven ⟨_, rfl⟩ hcapacity,
      readOr_of_readGiven _ hcapacity, readOr_of_readOptional hroom]
    exact ha
  | null | bool _ | number _ | text _ | array _ =>
    rw [Value.overlay_of_not_isObject' rfl]
    exact hread

theorem LogSettings.underlies_baseSection : Underlies baseSection (read .value) := by
  intro v a ordered hread
  cases v with
  | object members =>
    have ascending := ordered.ascending
    rw [read_toSource .value ascending] at hread
    obtain ⟨format, hformat, hread⟩ := Reading.of_bind_eq_ok hread
    obtain ⟨level, hlevel, ha⟩ := Reading.of_bind_eq_ok hread
    rw [read_overlay ascending, given?_of_readGiven ⟨_, rfl⟩ hformat,
      given?_of_readGiven ⟨_, rfl⟩ hlevel, readOr_of_readGiven _ hformat,
      readOr_of_readGiven _ hlevel]
    exact ha
  | null | bool _ | number _ | text _ | array _ =>
    rw [Value.overlay_of_not_isObject' rfl]
    exact hread

/-- A section that has been read is still there over the base, also if it is not given. -/
theorem Json.Source.Underlies.read_sectionOf {α : Type} {base : Value} {read : Source → Reading α}
    (h : Underlies base read) {members : List (String × Value)} {key : String}
    (ordered : (Value.object members).IsOrdered) (refuses : ∃ fault, read .null = .error fault)
    (otherwise : α) (below : read (Value.object []).toSource = .ok otherwise) {after : Option α}
    (hread : readGiven read (members.lookup key) = .ok after) :
    read (base.overlay ((Value.object members).sectionOf key)).toSource =
      .ok (after.getD otherwise) := by
  apply h _ _ (ordered.sectionOf key)
  unfold Value.sectionOf
  rw [given?_of_readGiven refuses hread]
  have hor := readOr_of_readGiven otherwise hread
  cases hlookup : members.lookup key with
  | none =>
    rw [hlookup] at hor
    exact below.trans hor
  | some v =>
    rw [hlookup] at hor
    exact hor

namespace Settings

/-- Settings that have been read from a document are still there over the base document. -/
theorem underlies_baseDocument : Underlies baseDocument (read .value) := by
  intro v s ordered hread
  cases v with
  | object members =>
    rw [read_toSource .value ordered.ascending] at hread
    obtain ⟨detector, hdetector, hread⟩ := Reading.of_bind_eq_ok hread
    obtain ⟨logging, hlogging, hread⟩ := Reading.of_bind_eq_ok hread
    obtain ⟨version, hversion, hs⟩ := Reading.of_bind_eq_ok hread
    have hwatched := DetectionSettings.underlies_baseSection.read_sectionOf ordered ⟨_, rfl⟩
      default.detector rfl hdetector
    have hwritten := LogSettings.underlies_baseSection.read_sectionOf ordered ⟨_, rfl⟩
      default.logging rfl hlogging
    show ofValue _ = _
    rw [ofValue_overlay_sections ordered rfl, hwatched, hwritten,
      given?_of_readGiven ⟨_, rfl⟩ hversion, readOr_of_readGiven _ hversion]
    exact hs
  | null | bool _ | number _ | text _ | array _ =>
    rw [Value.overlay_of_not_isObject' rfl]
    exact hread

/-! ## Loading -/

variable {file : SettingsFile} {content : ByteArray} {text : String} {d : Value} {s : Settings}

theorem under_nothing (s : Settings) : (s.under fun _ => none) = s := by
  rfl

/-- Settings that can be read from a text at once are loaded from a file of that text, if they leave
    some capacity and nothing is set in the environment. -/
theorem load_of_ofText (hfile : file.content = .bytes content)
    (htext : String.fromUTF8? content = some text) (hvalue : Value.ofText? text = some d)
    (hread : ofText text = .ok s) :
    (load file fun _ => none).1 =
      if s.detector.capacity = 0 then .error (.unusable .noCapacity) else .ok s := by
  have holds : file.Holds d := ⟨content, text, hfile, htext, hvalue⟩
  have hlaid : ofValue (baseDocument.overlay d) = .ok s :=
    underlies_baseDocument d s (isOrdered_of_holds holds) (ofValue_of_ofText hvalue hread)
  rw [load_eq, ofFile_of_holds holds, hlaid]
  show (if (s.under fun _ => none).detector.capacity = 0 then _ else _) = _
  rw [under_nothing]

/-- A file with one section as an array, with an object for a name in it, and the other section as
    an object whose room is `null`. -/
theorem load_of_ofText_array :
    ∃ file content text d, file.content = .bytes content ∧
      String.fromUTF8? content = some text ∧ Value.ofText? text = some d ∧
      ofText text = .ok { logging := { level := "debug", format := .json } } ∧
      (load file fun _ => none).1 = .ok { logging := { level := "debug", format := .json } } := by
  let text := "\x7b\"logging\": [\"debug\", \x7b\"json\": null\x7d], \"extra\": [1],
    \"detector\": \x7b\"room\": null\x7d\x7d"
  have hsome : (Value.ofText? text).isSome = true := by
    decide +kernel
  have hread : (ofText text).toOption =
      some { logging := { level := "debug", format := .json } } := by
    decide +kernel
  obtain ⟨d, hvalue⟩ := Option.isSome_iff_exists.1 hsome
  cases hdirect : ofText text with
  | error fault =>
    rw [hdirect] at hread
    cases hread
  | ok s =>
    rw [hdirect] at hread
    cases hread
    have htext : String.fromUTF8? text.toUTF8 = some text := dif_pos text.isValidUTF8
    refine ⟨⟨"settings.json", .bytes text.toUTF8⟩, _, text, d, rfl, htext, hvalue, hdirect, ?_⟩
    exact load_of_ofText rfl htext hvalue hdirect

end Settings

end WorkerRoster
