import WorkerRoster.Proofs.Settings.Fields
import WorkerRoster.Settings.Load

/-!
# The Layers of Settings

Settings are laid over each other as documents, read as records, changed one after the other by the
environment, and looked at once more in the end. What comes of it can be said field by field: the
environment if it sets the field to something that can be used, else the file if it says anything
but `null`, else what holds where nothing is set. What else is in the file does not matter.

This is so for a file that holds an object whose sections, where they are given, are objects.

## Main statements

- `Settings.ofValue_overlay`: a document laid over the base, read field by field
- `Settings.load_layers`: settings that are loaded, field by field
-/

set_option autoImplicit false

namespace WorkerRoster

open Json Json.Source

/-! ## Values of the right kind -/

namespace Text

/-- A text with ASCII letters in lower case. -/
def lower (s : String) : String :=
  String.ofList (s.toList.map lowerAscii)

end Text

namespace Json.Value

/-- The text that a value is. -/
def text? : Value → Option String
  | .text s => some s
  | .null | .bool _ | .number _ | .array _ | .object _ => none

/-- The number of things that a value is. -/
def count? : Value → Option UInt64
  | .number (.natural n) => some n
  | .null | .bool _ | .number _ | .text _ | .array _ | .object _ => none

end Json.Value

/-- The form of the journal that a value stands for: its name, or an object with its name as only
    key and nothing in it. -/
def LogFormat.ofValue? : Value → Option LogFormat
  | .text name => choices.lookup name
  | .object [(name, .null)] => choices.lookup name
  | _ => none

/-- A reader takes just the values of a kind. -/
def Json.Source.Takes {α : Type} (read : Source → Reading α) (kind? : Value → Option α) : Prop :=
  ∀ v : Value, (∀ a, kind? v = some a → read v.toSource = .ok a) ∧
    (kind? v = none → ∃ fault, read v.toSource = .error fault)

namespace Json.Source

theorem takes_readText : Takes readText Value.text? := by
  intro v
  cases v with
  | text s =>
    constructor
    · rintro _ ⟨⟩
      rfl
    · nofun
  | null | bool _ | number _ | array _ | object _ => exact ⟨nofun, fun _ => ⟨_, rfl⟩⟩

theorem Takes.map {α β : Type} {read : Source → Reading α} {kind? : Value → Option α}
    (h : Takes read kind?) (f : α → β) :
    Takes (fun s => (read s).map f) fun v => (kind? v).map f := by
  intro v
  constructor
  · intro b hb
    obtain ⟨a, ha, rfl⟩ := Option.map_eq_some_iff.1 hb
    show (read v.toSource).map f = _
    rw [(h v).1 a ha]
    rfl
  · intro hnone
    obtain ⟨fault, hfault⟩ := (h v).2 (Option.map_eq_none_iff.1 hnone)
    refine ⟨fault, ?_⟩
    show (read v.toSource).map f = _
    rw [hfault]
    rfl

theorem takes_readCount : Takes readCount Value.count? := by
  intro v
  cases v with
  | number n =>
    cases n with
    | natural n =>
      constructor
      · rintro _ ⟨⟩
        rfl
      · nofun
    | negative _ | real _ => exact ⟨nofun, fun _ => ⟨_, rfl⟩⟩
  | null | bool _ | text _ | array _ | object _ => exact ⟨nofun, fun _ => ⟨_, rfl⟩⟩

theorem named_choices (name : String) :
    (∀ format, LogFormat.choices.lookup name = some format →
      named LogFormat.choices name = .ok format) ∧
    (LogFormat.choices.lookup name = none →
      ∃ fault, named LogFormat.choices name = .error fault) := by
  unfold named
  cases LogFormat.choices.lookup name with
  | none => exact ⟨nofun, fun _ => ⟨_, rfl⟩⟩
  | some format =>
    constructor
    · rintro _ ⟨⟩
      rfl
    · nofun

theorem takes_readFormat : Takes (LogFormat.read .value) LogFormat.ofValue? := by
  intro v
  cases v with
  | text name => exact named_choices name -- the name alone
  | null | bool _ | number _ | array _ => exact ⟨nofun, fun _ => ⟨_, rfl⟩⟩
  | object members =>
    -- an object must have a single key
    match members with
    | [] => exact ⟨nofun, fun _ => ⟨_, rfl⟩⟩
    | (name, content) :: m :: rest =>
      constructor
      · intro format h
        cases content <;> cases h
      · exact fun _ => ⟨_, rfl⟩
    | [(name, content)] =>
      -- its name is looked up first, and what is in it comes after
      have hread : LogFormat.read .value (Value.object [(name, content)]).toSource =
          named LogFormat.choices name >>= fun format =>
            readNothing content.toSource >>= fun _ => .ok format := by
        show readChoice .value _ (.object [(some name, content.toSource)] .closed) = _
        cases hname : named LogFormat.choices name <;>
          cases hcontent : readNothing content.toSource <;>
            simp [readChoice, hname, hcontent, Bind.bind, Except.bind]
      rw [hread]
      obtain ⟨htakes, hrefuses⟩ := named_choices name
      cases content with
      | null =>
        -- nothing is in it, so the name decides
        constructor
        · intro format h
          rw [htakes format h]
          rfl
        · intro h
          obtain ⟨fault, hfault⟩ := hrefuses h
          rw [hfault]
          exact ⟨fault, rfl⟩
      | bool _ | number _ | text _ | array _ | object _ =>
        refine ⟨nofun, fun _ => ?_⟩
        -- whatever the name, there must be nothing in it
        cases named LogFormat.choices name with
        | error fault => exact ⟨fault, rfl⟩
        | ok format => exact ⟨_, rfl⟩

/-! ## Fields with something below them -/

/-- Read a field, with something to fall back on where nothing is given. -/
def readOr {α : Type} (read : Source → Reading α) (otherwise : α) : Option Value → Reading α
  | none => .ok otherwise
  | some v => read v.toSource

section Over

variable {α : Type} {read : Source → Reading α} {members changes : List (String × Value)}
  {key : String}

/-- A field over a base that has it is read as what is given, else as what the base has. -/
theorem readGiven_overlayMembers (h : Keyed.Ascending changes) {base : Value} {otherwise : α}
    (found : members.lookup key = some base) (plain : base.isObject = false)
    (below : read base.toSource = .ok otherwise) :
    readGiven read ((Value.overlayMembers members changes).lookup key) =
      (readOr read otherwise ((Value.object changes).given? key)).map some := by
  rw [Value.lookup_overlayMembers h, found]
  cases (Value.object changes).given? key with
  | none =>
    -- the base is left as it is
    show (read base.toSource).map some = _
    rw [below]
    rfl
  | some v =>
    -- what is given takes the place of a base that is no object
    show (read (base.overlay v).toSource).map some = _
    rw [Value.overlay_of_not_isObject plain]
    rfl

theorem isNull_of_given? {v w : Value} {key : String} (h : v.given? key = some w) :
    w.isNull = false := by
  simpa using (Option.filter_eq_some_iff.1 h).2

/-- A field over a base that lacks it: what may be `null` may as well be left out. -/
theorem readGiven_readOptional_overlayMembers (h : Keyed.Ascending changes)
    (absent : members.lookup key = none) :
    (readGiven (readOptional read) ((Value.overlayMembers members changes).lookup key)).map
      (·.getD none) =
        readOr (fun s => (read s).map some) none ((Value.object changes).given? key) := by
  rw [Value.lookup_overlayMembers h, absent]
  cases hgiven : (Value.object changes).given? key with
  | none => rfl
  | some v =>
    -- a `null` does not count as given, so the reader sees something else
    show ((readOptional read v.toSource).map some).map _ = (read v.toSource).map some
    rw [readOptional_toSource (isNull_of_given? hgiven)]
    cases read v.toSource <;> rfl

theorem readOr_of_takes {kind? : Value → Option α} (takes : Takes read kind?) (otherwise : α)
    {given : Option Value} (h : ∀ v, given = some v → kind? v ≠ none) :
    readOr read otherwise given = .ok ((given.bind kind?).getD otherwise) := by
  cases given with
  | none => rfl
  | some v =>
    obtain ⟨a, ha⟩ := Option.ne_none_iff_exists'.1 (h v rfl)
    show read v.toSource = _
    rw [(takes v).1 a ha]
    simp [ha]

theorem Takes.of_readOr {kind? : Value → Option α} (takes : Takes read kind?) {otherwise a : α}
    {given : Option Value} (h : readOr read otherwise given = .ok a) :
    ∀ v, given = some v → kind? v ≠ none := by
  rintro v rfl hnone
  obtain ⟨fault, hfault⟩ := (takes v).2 hnone
  rw [readOr, hfault] at h
  cases h

end Over

end Json.Source

/-! ## What a document says -/

/-- What a document says about each field of settings. Where a field is left out, or `null`,
    nothing is said about it. -/
structure Said where
  version : Option Value
  room : Option Value
  capacity : Option Value
  level : Option Value
  format : Option Value

namespace Json.Value

/-- The section of a key, without members if it is not given. -/
def sectionOf (d : Value) (key : String) : Value :=
  (d.given? key).getD (.object [])

theorem IsOrdered.sectionOf {d : Value} (h : d.IsOrdered) (key : String) :
    (d.sectionOf key).IsOrdered := by
  unfold Value.sectionOf
  cases hgiven : d.given? key with
  | none => exact .object .nil (by simp)
  | some v => exact h.of_given? hgiven

theorem IsOrdered.exists_members {d : Value} (h : d.IsOrdered) (object : d.isObject = true) :
    ∃ members, d = .object members ∧ Keyed.Ascending members := by
  cases h with
  | object ascending inside => exact ⟨_, rfl, ascending⟩
  | null | bool _ | number _ | text _ | array _ => cases object

/-- A section over a base that has it is read as what the two make together. -/
theorem readGiven_overlay_sectionOf {α : Type} {read : Source → Reading α}
    {members changes : List (String × Value)} {key : String} (h : Keyed.Ascending changes)
    {base : Value} (found : members.lookup key = some base)
    (unchanged : base.overlay (.object []) = base) :
    readGiven read ((overlayMembers members changes).lookup key) =
      (read (base.overlay ((Value.object changes).sectionOf key)).toSource).map some := by
  rw [lookup_overlayMembers h, found]
  unfold sectionOf
  cases (Value.object changes).given? key with
  | none =>
    -- a section that is left out is as good as one without members
    show (read base.toSource).map some = (read (base.overlay (.object [])).toSource).map some
    rw [unchanged]
  | some v => rfl

end Json.Value

/-- What a document says, field by field. -/
def Said.of (d : Value) : Said where
  version := d.given? "version"
  room := (d.sectionOf "detector").given? "room"
  capacity := (d.sectionOf "detector").given? "eventCapacity"
  level := (d.sectionOf "logging").given? "level"
  format := (d.sectionOf "logging").given? "format"

/-- Read what is said about the sections, and then the rest, as the keys follow each other. -/
def Said.read (f : Said) : Reading Settings := do
  let capacity ← readOr readCount Settings.default.detector.capacity f.capacity
  let room ← readOr (fun s => (readText s).map some) none f.room
  let format ← readOr (LogFormat.read .value) Settings.default.logging.format f.format
  let level ← readOr readText Settings.default.logging.level f.level
  let version ← readOr readText Settings.default.version f.version
  return { version, detector := { room, capacity }, logging := { level, format } }

section Overlay

variable {members : List (String × Value)}

namespace DetectionSettings

/-- The members of the section where nothing is set. -/
def baseMembers : List (String × Value) :=
  [("eventCapacity", .number (.natural Settings.default.detector.capacity))]

/-- The section where nothing is set. -/
def baseSection : Value :=
  .object baseMembers

theorem read_overlay (h : Keyed.Ascending members) :
    read .value (baseSection.overlay (.object members)).toSource = do
      let capacity ← readOr readCount Settings.default.detector.capacity
        ((Value.object members).given? "eventCapacity")
      let room ← readOr (fun s => (readText s).map some) none
        ((Value.object members).given? "room")
      return { room, capacity } := by
  have ascending : Keyed.Ascending (Value.overlayMembers baseMembers members) :=
    Value.ascending_overlayMembers (List.pairwise_singleton _ _)
  -- the base has a capacity to fall back on
  have hcapacity :
      readGiven readCount ((Value.overlayMembers baseMembers members).lookup "eventCapacity") =
        (readOr readCount Settings.default.detector.capacity
          ((Value.object members).given? "eventCapacity")).map some :=
    readGiven_overlayMembers h rfl rfl rfl
  -- but no room: there may be none
  have hroom : (readGiven (readOptional readText)
      ((Value.overlayMembers baseMembers members).lookup "room")).map (·.getD none) =
        readOr (fun s => (readText s).map some) none ((Value.object members).given? "room") :=
    readGiven_readOptional_overlayMembers h rfl
  -- the two together are an object in key order again, and so are read field by field
  rw [baseSection, Value.overlay_object, read_toSource .value ascending, hcapacity, ← hroom]
  simp only [Reading.map_bind]
  rfl

end DetectionSettings

namespace LogSettings

/-- The members of the section where nothing is set. -/
def baseMembers : List (String × Value) :=
  [("format", Settings.default.logging.format.toValue),
    ("level", .text Settings.default.logging.level)]

/-- The section where nothing is set. -/
def baseSection : Value :=
  .object baseMembers

theorem read_overlay (h : Keyed.Ascending members) :
    read .value (baseSection.overlay (.object members)).toSource = do
      let format ← readOr (LogFormat.read .value) Settings.default.logging.format
        ((Value.object members).given? "format")
      let level ← readOr readText Settings.default.logging.level
        ((Value.object members).given? "level")
      return { level, format } := by
  have ascending : Keyed.Ascending (Value.overlayMembers baseMembers members) := by
    apply Value.ascending_overlayMembers
    unfold Keyed.Ascending
    decide
  -- the base has both fields
  have hformat :
      readGiven (LogFormat.read .value)
          ((Value.overlayMembers baseMembers members).lookup "format") =
        (readOr (LogFormat.read .value) Settings.default.logging.format
          ((Value.object members).given? "format")).map some :=
    readGiven_overlayMembers h rfl rfl rfl
  have hlevel : readGiven readText ((Value.overlayMembers baseMembers members).lookup "level") =
      (readOr readText Settings.default.logging.level
        ((Value.object members).given? "level")).map some :=
    readGiven_overlayMembers h rfl rfl rfl
  rw [baseSection, Value.overlay_object, read_toSource .value ascending, hformat, hlevel]
  simp only [Reading.map_bind]
  rfl

end LogSettings

namespace Settings

/-- The members of the base document. -/
def baseMembers : List (String × Value) :=
  [("detector", DetectionSettings.baseSection), ("logging", LogSettings.baseSection),
    ("version", .text default.version)]

theorem baseDocument_eq : baseDocument = .object baseMembers := by
  rfl

/-- Whether a document can be laid over the base: an object whose sections, where they are given,
    are objects. -/
structure IsLayer (d : Value) : Prop where
  root : d.isObject = true
  detector : (d.sectionOf "detector").isObject = true
  logging : (d.sectionOf "logging").isObject = true

/-- An object laid over the base, read section by section. -/
theorem ofValue_overlay_sections {d : Value} (ordered : d.IsOrdered) (object : d.isObject = true) :
    ofValue (baseDocument.overlay d) = do
      let detector ← DetectionSettings.read .value
        (DetectionSettings.baseSection.overlay (d.sectionOf "detector")).toSource
      let logging ← LogSettings.read .value
        (LogSettings.baseSection.overlay (d.sectionOf "logging")).toSource
      let version ← readOr readText default.version (d.given? "version")
      return { version, detector, logging } := by
  obtain ⟨members, rfl, h⟩ := ordered.exists_members object
  have ascending : Keyed.Ascending (Value.overlayMembers baseMembers members) := by
    apply Value.ascending_overlayMembers
    unfold Keyed.Ascending
    decide
  -- the base has both sections, so each is what the two documents make together
  have hdetector : readGiven (DetectionSettings.read .value)
      ((Value.overlayMembers baseMembers members).lookup "detector") =
        (DetectionSettings.read .value (DetectionSettings.baseSection.overlay
          ((Value.object members).sectionOf "detector")).toSource).map some :=
    Value.readGiven_overlay_sectionOf h rfl rfl
  have hlogging : readGiven (LogSettings.read .value)
      ((Value.overlayMembers baseMembers members).lookup "logging") =
        (LogSettings.read .value (LogSettings.baseSection.overlay
          ((Value.object members).sectionOf "logging")).toSource).map some :=
    Value.readGiven_overlay_sectionOf h rfl rfl
  -- the version is a field like those of the sections
  have hversion : readGiven readText ((Value.overlayMembers baseMembers members).lookup "version") =
      (readOr readText default.version ((Value.object members).given? "version")).map some :=
    readGiven_overlayMembers h rfl rfl rfl
  unfold ofValue
  rw [baseDocument_eq, Value.overlay_object, read_toSource .value ascending, hdetector, hlogging,
    hversion]
  simp only [Reading.map_bind]
  rfl

/-- A document laid over the base, read field by field. -/
theorem ofValue_overlay {d : Value} (ordered : d.IsOrdered) (h : IsLayer d) :
    ofValue (baseDocument.overlay d) = (Said.of d).read := by
  -- with objects for sections, the sections can be read field by field, too
  obtain ⟨watched, hwatched, hwatchedOrder⟩ := (ordered.sectionOf _).exists_members h.detector
  obtain ⟨written, hwritten, hwrittenOrder⟩ := (ordered.sectionOf _).exists_members h.logging
  rw [ofValue_overlay_sections ordered h.root, hwatched, hwritten,
    DetectionSettings.read_overlay hwatchedOrder, LogSettings.read_overlay hwrittenOrder]
  unfold Said.read Said.of
  rw [hwatched, hwritten]
  simp only [bind_assoc, pure_bind]

end Settings

end Overlay

/-! ## What is said, and what is loaded -/

namespace Said

variable {f : Said}

/-- Whether everything that is said is of the right kind. -/
structure IsTyped (f : Said) : Prop where
  version : ∀ v, f.version = some v → v.text? ≠ none
  room : ∀ v, f.room = some v → v.text? ≠ none
  capacity : ∀ v, f.capacity = some v → v.count? ≠ none
  level : ∀ v, f.level = some v → v.text? ≠ none
  format : ∀ v, f.format = some v → LogFormat.ofValue? v ≠ none

/-- Settings field by field: what is said, else what holds where nothing is set. -/
def settings (f : Said) : Settings where
  version := (f.version.bind Value.text?).getD Settings.default.version
  detector :=
    { room := f.room.bind Value.text?
      capacity := (f.capacity.bind Value.count?).getD Settings.default.detector.capacity }
  logging :=
    { level := (f.level.bind Value.text?).getD Settings.default.logging.level
      format := (f.format.bind LogFormat.ofValue?).getD Settings.default.logging.format }

theorem read_of_isTyped (h : f.IsTyped) : f.read = .ok f.settings := by
  -- the room has nothing to fall back on, so it is read as something that may be missing
  have htyped : ∀ v, f.room = some v → v.text?.map some ≠ none := by
    intro v hv
    simpa using h.room v hv
  have hroom : readOr (fun s => (readText s).map some) none f.room =
      .ok (f.room.bind Value.text?) := by
    rw [readOr_of_takes (takes_readText.map some) none htyped]
    cases f.room with
    | none => rfl
    | some v => cases hv : v.text? <;> simp [hv]
  -- every reader takes what is said, in the order of the keys
  unfold Said.read
  rw [readOr_of_takes takes_readCount _ h.capacity, hroom,
    readOr_of_takes takes_readFormat _ h.format, readOr_of_takes takes_readText _ h.level,
    readOr_of_takes takes_readText _ h.version]
  rfl

theorem isTyped_of_read {s : Settings} (h : f.read = .ok s) : f.IsTyped := by
  -- the settings are there in the end, so no field was refused on the way
  obtain ⟨capacity, hcapacity, h⟩ := Reading.of_bind_eq_ok h
  obtain ⟨room, hroom, h⟩ := Reading.of_bind_eq_ok h
  obtain ⟨format, hformat, h⟩ := Reading.of_bind_eq_ok h
  obtain ⟨level, hlevel, h⟩ := Reading.of_bind_eq_ok h
  obtain ⟨version, hversion, -⟩ := Reading.of_bind_eq_ok h
  constructor
  case version => exact takes_readText.of_readOr hversion
  case room =>
    intro v hv hnone
    apply (takes_readText.map some).of_readOr hroom v hv
    rw [hnone]
    rfl
  case capacity => exact takes_readCount.of_readOr hcapacity
  case level => exact takes_readText.of_readOr hlevel
  case format => exact takes_readFormat.of_readOr hformat

end Said

/-! ## The environment -/

namespace Environment

/-- The capacity that the environment sets, if it can be used. -/
def capacity? (env : Environment) : Option Nat :=
  (env.value? capacityName).bind (Decimal.wholeWithin? 1 1000000)

/-- The form of the journal that the environment sets, if it can be used. -/
def format? (env : Environment) : Option LogFormat :=
  (env.value? formatName).bind fun v =>
    let word := Text.lower (Text.trim v)
    if word = "compact" ∨ word = "text" then some .compact
    else if word = "json" then some .json
    else none

end Environment

theorem Decimal.bounds_of_wholeWithin? {low high n : Nat} {v : String}
    (h : Decimal.wholeWithin? low high v = some n) : low ≤ n ∧ n ≤ high := by
  unfold Decimal.wholeWithin? at h
  split at h
  · split at h
    · next hbounds =>
      cases h
      exact hbounds.2
    · cases h
  · cases h

theorem Text.sameLetters_iff_lower {s t : String}
    (h : t.toList.map Text.lowerAscii = t.toList) :
    Text.sameLetters s t = true ↔ Text.lower s = t := by
  unfold Text.sameLetters Text.lower
  rw [h, ← String.toList_inj, String.toList_ofList, beq_iff_eq]

theorem LogFormat.ofWord?_eq (v : String) : LogFormat.ofWord? v =
    let word := Text.lower (Text.trim v)
    if word = "compact" ∨ word = "text" then some .compact
    else if word = "json" then some .json
    else none := by
  -- the three words are in lower case, so letters may be compared in lower case
  have hcompact := Text.sameLetters_iff_lower (s := Text.trim v) (t := "compact") (by decide)
  have htext := Text.sameLetters_iff_lower (s := Text.trim v) (t := "text") (by decide)
  have hjson := Text.sameLetters_iff_lower (s := Text.trim v) (t := "json") (by decide)
  simp only [LogFormat.ofWord?, Bool.or_eq_true, hcompact, htext, hjson]

namespace Settings

/-- Settings under the environment, field by field: what the environment sets and can be used, else
    what is set already. -/
def under (s : Settings) (env : Environment) : Settings where
  version := s.version
  detector :=
    { room := (env.value? Environment.roomName).or s.detector.room
      capacity := (env.capacity?.map Nat.toUInt64).getD s.detector.capacity }
  logging :=
    { level := (env.value? Environment.levelName).getD s.logging.level
      format := env.format?.getD s.logging.format }

theorem withEnvironment_eq (env : Environment) (s : Settings) :
    (s.withEnvironment env).1 = s.under env := by
  -- each variable has a step of its own, which changes a single field: a text is taken as it is
  have hroom : withRoom env s = { s with detector := { s.detector with
      room := (env.value? Environment.roomName).or s.detector.room } } := by
    unfold withRoom
    cases env.value? Environment.roomName <;> rfl
  have hlevel : ∀ s, withLevel env s = { s with logging := { s.logging with
      level := (env.value? Environment.levelName).getD s.logging.level } } := by
    intro s
    unfold withLevel
    cases env.value? Environment.levelName <;> rfl
  -- a word or a number only if it can be used
  have hformat : ∀ s, (withFormat env s).1 = { s with logging := { s.logging with
      format := env.format?.getD s.logging.format } } := by
    intro s
    unfold withFormat Environment.format?
    cases env.value? Environment.formatName with
    | none => rfl
    | some v =>
      rw [Option.bind_some, ← LogFormat.ofWord?_eq]
      dsimp only
      cases LogFormat.ofWord? v <;> rfl
  have hcapacity : ∀ s, (withCapacity env s).1 = { s with detector := { s.detector with
      capacity := (env.capacity?.map Nat.toUInt64).getD s.detector.capacity } } := by
    intro s
    unfold withCapacity Environment.capacity?
    cases env.value? Environment.capacityName with
    | none => rfl
    | some v =>
      rw [Option.bind_some]
      dsimp only [Environment.maxCapacity]
      cases Decimal.wholeWithin? 1 1000000 v <;> rfl
  -- no step looks at a field that another one changes
  unfold withEnvironment
  simp only [hcapacity, hformat, hlevel, hroom]
  rfl

theorem capacity_under_eq_zero (f : Said) (env : Environment) :
    (f.settings.under env).detector.capacity = 0 ↔
      f.capacity = some (.number (.natural 0)) ∧ env.capacity? = none := by
  show (env.capacity?.map Nat.toUInt64).getD f.settings.detector.capacity = 0 ↔ _
  cases hset : env.capacity? with
  | some n =>
    -- what the environment can set is not zero, and stays so in a word
    obtain ⟨v, -, hv⟩ := Option.bind_eq_some_iff.1 hset
    obtain ⟨hlow, hhigh⟩ := Decimal.bounds_of_wholeWithin? hv
    have hne : n.toUInt64 ≠ 0 := by
      intro hzero
      have hnat := congrArg UInt64.toNat hzero
      simp at hnat
      omega
    simp [hne]
  | none =>
    -- then it is up to the file, and the capacity where nothing is set is not zero
    show (f.capacity.bind Value.count?).getD Settings.default.detector.capacity = 0 ↔ _
    cases f.capacity with
    | none => simp [Settings.default]
    | some v =>
      cases v with
      | number n =>
        cases n with
        | natural n => simp [Value.count?]
        | negative _ | real _ => simp [Value.count?, Settings.default]
      | null | bool _ | text _ | array _ | object _ => simp [Value.count?, Settings.default]

end Settings

/-- What is found under the path of a file is the text of a document. -/
def SettingsFile.Holds (file : SettingsFile) (d : Value) : Prop :=
  ∃ content text, file.content = .bytes content ∧ String.fromUTF8? content = some text ∧
    Value.ofText? text = some d

namespace Settings

variable {file : SettingsFile} {d : Value}

theorem load_eq (file : SettingsFile) (env : Environment) : (load file env).1 =
    (ofFile file.content).bind fun s =>
      if (s.under env).detector.capacity = 0 then .error (.unusable .noCapacity)
      else .ok (s.under env) := by
  cases hfile : ofFile file.content with
  | error e =>
    -- whatever the environment says
    rw [load_of_error hfile]
    rfl
  | ok s =>
    rw [load_of_ok hfile]
    simp only [← withEnvironment_eq, unusable?, Except.bind]
    split <;> rfl

/-- Settings that are loaded are those of the file under the environment, with some capacity. -/
theorem exists_of_load {env : Environment} {s : Settings} (h : (load file env).1 = .ok s) :
    ∃ written, ofFile file.content = .ok written ∧ s = written.under env ∧
      s.detector.capacity ≠ 0 := by
  rw [load_eq] at h
  cases hfile : ofFile file.content with
  | error e =>
    rw [hfile] at h
    cases h
  | ok written =>
    rw [hfile] at h
    replace h : (if (written.under env).detector.capacity = 0 then Except.error _ else _) =
        Except.ok s := h
    -- what was refused for want of capacity was not loaded
    split at h
    · cases h
    · next hsome =>
      cases h
      exact ⟨written, rfl, rfl, hsome⟩

theorem ofFile_of_holds (h : file.Holds d) :
    ofFile file.content = (ofValue (baseDocument.overlay d)).mapError .json := by
  obtain ⟨content, text, hcontent, htext, hvalue⟩ := h
  -- the file is there, its bytes are a text, and the text is a document
  have hfile : file.content.text? = .ok (some text) := by
    rw [hcontent, FileContent.text?, htext]
  have hdocument : document? (some text) = .ok (baseDocument.overlay d) := by
    rw [document?, hvalue]
  -- so only the fields can be refused
  unfold ofFile
  rw [hfile]
  dsimp only
  rw [hdocument]
  dsimp only
  cases ofValue (baseDocument.overlay d) <;> rfl

theorem holds_ofText? {path text : String} (h : Value.ofText? text = some d) :
    (SettingsFile.mk path (.bytes text.toUTF8)).Holds d :=
  ⟨text.toUTF8, text, rfl, dif_pos text.isValidUTF8, h⟩

/-- The settings of a file, worked out from its text. -/
theorem ofFile_of_text (path : String) {text : String} {s : Settings}
    (h : (Value.ofText? text).map (fun d => (ofValue (baseDocument.overlay d)).toOption) =
      some (some s)) : ofFile (SettingsFile.mk path (.bytes text.toUTF8)).content = .ok s := by
  obtain ⟨d, hd, hread⟩ := Option.map_eq_some_iff.1 h
  rw [ofFile_of_holds (holds_ofText? hd)]
  cases hvalue : ofValue (baseDocument.overlay d) with
  | error fault => simp [hvalue, Except.toOption] at hread
  | ok written =>
    rw [hvalue] at hread
    exact congrArg Except.ok (Option.some.inj hread)

theorem isOrdered_of_holds (h : file.Holds d) : d.IsOrdered := by
  obtain ⟨_, text, -, -, hvalue⟩ := h
  -- every value that is made of a document has its members in key order
  unfold Value.ofText? Document.value? at hvalue
  split at hvalue
  · exact isOrdered_value? hvalue
  · cases hvalue

/-- Settings that are loaded, field by field: the environment comes before the file, and the file
    before what holds where nothing is set. Only if everything that the file says is of the right
    kind is there anything to come before; and there must be some capacity in the end. Whatever
    else is in the file does not matter. -/
theorem load_layers (h : file.Holds d) (layer : IsLayer d) :
    ((Said.of d).IsTyped → ∀ env, (load file env).1 =
      if ((Said.of d).settings.under env).detector.capacity = 0
      then .error (.unusable .noCapacity)
      else .ok ((Said.of d).settings.under env)) ∧
    (∀ env, ((Said.of d).settings.under env).detector.capacity = 0 ↔
      (Said.of d).capacity = some (.number (.natural 0)) ∧ env.capacity? = none) ∧
    (¬ (Said.of d).IsTyped → ∃ fault, ∀ env, (load file env).1 = .error (.json fault)) ∧
    ∀ (other : SettingsFile) (e : Value), other.Holds e → IsLayer e → Said.of e = Said.of d →
      ∀ env, (load other env).1 = (load file env).1 := by
  -- the file counts only for what it says about the fields
  have hread : ∀ {file : SettingsFile} {d : Value}, file.Holds d → IsLayer d →
      ofFile file.content = ((Said.of d).read).mapError .json := by
    intro file d h layer
    rw [ofFile_of_holds h, ofValue_overlay (isOrdered_of_holds h) layer]
  refine ⟨?_, ?_, ?_, ?_⟩
  · -- what is loaded
    intro typed env
    rw [load_eq, hread h layer, Said.read_of_isTyped typed]
    rfl
  · -- when no capacity is left
    exact capacity_under_eq_zero (Said.of d)
  · -- what the environment cannot make good
    intro untyped
    cases hsaid : (Said.of d).read with
    | ok s => exact absurd (Said.isTyped_of_read hsaid) untyped
    | error fault =>
      refine ⟨fault, fun env => ?_⟩
      rw [load_eq, hread h layer, hsaid]
      rfl
  · -- what does not matter
    intro other e hother layer' same env
    rw [load_eq, load_eq, hread hother layer', hread h layer, same]

/-- A file that sets a capacity of none, and an environment that sets another. -/
theorem load_layers_rescued :
    ∃ file d env, file.Holds d ∧ IsLayer d ∧ (Said.of d).IsTyped ∧
      (Said.of d).capacity = some (.number (.natural 0)) ∧
      (load file env).1 = .ok
        { detector := { room := some "brewery@muc", capacity := 5 }
          logging := { format := .json } } := by
  let text := "\x7b\"logging\": \x7b\"level\": null, \"format\": \"json\"\x7d, \"extra\": [1],
    \"detector\": \x7b\"room\": \"brewery@muc\", \"eventCapacity\": 0\x7d\x7d"
  let env : Environment := fun name =>
    if name = Environment.capacityName then some " 5 " else none
  -- the document is read from its text once for its shape, and once for what it says
  have hobjects : (Value.ofText? text).map (fun d => (d.isObject,
      (d.sectionOf "detector").isObject, (d.sectionOf "logging").isObject)) =
        some (true, true, true) := by
    decide +kernel
  have hread : (Value.ofText? text).map (fun d => (Said.of d).read.toOption) = some (some
      { detector := { room := some "brewery@muc", capacity := 0 }
        logging := { format := .json } }) := by
    decide +kernel
  -- both are about one document
  obtain ⟨d, hd, hobjects⟩ := Option.map_eq_some_iff.1 hobjects
  simp only [Prod.mk.injEq] at hobjects
  obtain ⟨hroot, hdetector, hlogging⟩ := hobjects
  rw [hd, Option.map_some, Option.some.injEq] at hread
  have layer : IsLayer d := ⟨hroot, hdetector, hlogging⟩
  -- it could be read, so everything in it is of the right kind
  have typed : (Said.of d).IsTyped := by
    cases hsaid : (Said.of d).read with
    | ok s => exact Said.isTyped_of_read hsaid
    | error fault => simp [hsaid, Except.toOption] at hread
  rw [Said.read_of_isTyped typed] at hread
  have hsettings := Option.some.inj hread
  have holds : (SettingsFile.mk "settings.json" (.bytes text.toUTF8)).Holds d := holds_ofText? hd
  obtain ⟨hloads, hzero, -, -⟩ := load_layers holds layer
  refine ⟨_, d, env, holds, layer, typed, ?_, ?_⟩
  · -- without the environment there would be no capacity
    have hnone := (hzero fun _ => none).1
    rw [hsettings] at hnone
    exact (hnone rfl).1
  · -- the environment makes it good
    have hunder : (Said.of d).settings.under env =
        { detector := { room := some "brewery@muc", capacity := 5 }
          logging := { format := .json } } := by
      rw [hsettings]
      decide +kernel
    rw [hloads typed env, hunder]
    rfl

end Settings

end WorkerRoster
