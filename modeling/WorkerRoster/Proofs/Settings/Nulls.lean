import WorkerRoster.Proofs.Json.Layering
import WorkerRoster.Proofs.Json.Rendering
import WorkerRoster.Proofs.Settings.Layers

/-!
# A Null Is as Good as Nothing

A settings file may say `null` wherever an object has a member. Where the base has an object, too,
such a member is passed over when the file is laid over it; elsewhere it is taken along, and it is
left to the readers what to make of it. Still it never matters: the settings are the same, or the
fault is, as if all these members were left out. What stands inside an array is not meant here.

The reason is that no reader of a single field looks into an object. There is one exception, the
form of the journal, which may be given as an object with its name as only key and `null` below it.

## Main statements

- `Json.Value.given?_withoutNulls`: the members that are left
- `Settings.ofValue_overlay_withoutNulls`: a document laid over the base, with or without nulls
- `Settings.load_withoutNulls`: settings that are loaded from files, with or without nulls
-/

set_option autoImplicit false

namespace WorkerRoster

open Json Json.Source

/-! ## Leaving nulls out -/

namespace Json.Value

-- A value may hold objects at any depth, so both are defined together.
mutual

/-- The value without the members that are `null`, in it and in the objects among its members. -/
def withoutNulls : Value → Value
  | .object members => .object (givenMembers members)
  | .null => .null
  | .bool b => .bool b
  | .number n => .number n
  | .text s => .text s
  | .array items => .array items

/-- The members that are not `null`, each without nulls. -/
def givenMembers : List (String × Value) → List (String × Value)
  | [] => []
  | (key, v) :: rest =>
    if v.isNull then givenMembers rest else (key, v.withoutNulls) :: givenMembers rest

end

variable {members : List (String × Value)}

theorem withoutNulls_of_not_isObject {v : Value} (h : v.isObject = false) :
    v.withoutNulls = v := by
  cases v with
  | object _ => cases h
  | null | bool _ | number _ | text _ | array _ => rfl

@[simp] theorem isObject_withoutNulls (v : Value) : v.withoutNulls.isObject = v.isObject := by
  cases v <;> rfl

@[simp] theorem isNull_withoutNulls (v : Value) : v.withoutNulls.isNull = v.isNull := by
  cases v <;> rfl

/-- Every member that is left was there, and it was not `null`. -/
theorem mem_givenMembers {m : String × Value} (h : m ∈ givenMembers members) :
    ∃ v, (m.1, v) ∈ members ∧ v.isNull = false ∧ m.2 = v.withoutNulls := by
  induction members with
  | nil => cases h
  | cons n rest ih =>
    obtain ⟨key, v⟩ := n
    unfold givenMembers at h
    split at h
    · obtain ⟨w, hw, hleft⟩ := ih h
      exact ⟨w, List.mem_cons_of_mem _ hw, hleft⟩
    · next hnull =>
      rcases List.mem_cons.1 h with rfl | h
      · exact ⟨v, List.mem_cons_self, by simpa using hnull, rfl⟩
      · obtain ⟨w, hw, hleft⟩ := ih h
        exact ⟨w, List.mem_cons_of_mem _ hw, hleft⟩

theorem ascending_givenMembers (h : Keyed.Ascending members) :
    Keyed.Ascending (givenMembers members) := by
  induction members with
  | nil => exact .nil
  | cons m rest ih =>
    obtain ⟨key, v⟩ := m
    unfold givenMembers
    split
    · exact ih h.tail
    · refine List.pairwise_cons.2 ⟨fun m hm => ?_, ih h.tail⟩
      obtain ⟨w, hw, -⟩ := mem_givenMembers hm
      exact (List.pairwise_cons.1 h).1 (m.1, w) hw

theorem lookup_givenMembers (h : Keyed.Ascending members) (key : String) :
    (givenMembers members).lookup key =
      ((Value.object members).given? key).map withoutNulls := by
  induction members with
  | nil => rfl
  | cons m rest ih =>
    obtain ⟨k, v⟩ := m
    have hrest := ih h.tail
    rw [given?_cons]
    unfold givenMembers
    split
    · next hnull =>
      -- no later member has the key of one that is left out
      by_cases hk : key = k
      · rw [if_pos hk, hrest, hk, given?_head k h]
      · rw [if_neg hk, hrest]
    · next hnull =>
      rw [Keyed.lookup_cons_eq_ite]
      by_cases hk : key = k
      · rw [if_pos hk, if_pos hk]
        rfl
      · rw [if_neg hk, if_neg hk, hrest]

/-- The members that are left are those that were given, without nulls themselves. -/
theorem given?_withoutNulls {v : Value} (h : v.IsOrdered) (key : String) :
    v.withoutNulls.given? key = (v.given? key).map withoutNulls := by
  cases h with
  | object ascending _ =>
    rw [withoutNulls, given?_object, lookup_givenMembers ascending]
    -- what is given is not `null`, and does not become so
    cases hgiven : (Value.object _).given? key with
    | none => rfl
    | some w =>
      have hnull : w.isNull = false := (given?_eq_some_iff.1 hgiven).2
      simp [Option.filter_some, hnull]
  | null | bool _ | number _ | text _ | array _ => rfl

theorem IsOrdered.withoutNulls {v : Value} (h : v.IsOrdered) : v.withoutNulls.IsOrdered := by
  induction h with
  | object ascending _ ih =>
    refine .object (ascending_givenMembers ascending) fun m hm => ?_
    obtain ⟨w, hw, -, hleft⟩ := mem_givenMembers hm
    rw [hleft]
    exact ih _ hw
  | array inside => exact .array inside
  | null => exact .null
  | bool b => exact .bool b
  | number n => exact .number n
  | text s => exact .text s

/-- What a section gives is in the document below the section's key. -/
theorem at?_of_given?_sectionOf {d v : Value} {name key : String}
    (h : (d.sectionOf name).given? key = some v) : d.at? [name, key] = some v := by
  unfold sectionOf at h
  cases hsection : d.given? name with
  | none =>
    rw [hsection] at h
    cases h
  | some s =>
    rw [hsection, Option.getD_some] at h
    rw [at?_cons, (given?_eq_some_iff.1 hsection).1, Option.bind_some, at?_cons,
      (given?_eq_some_iff.1 h).1]
    rfl

/-- A section without nulls is a section of the document without nulls. -/
theorem sectionOf_withoutNulls {d : Value} (h : d.IsOrdered) (key : String) :
    d.withoutNulls.sectionOf key = (d.sectionOf key).withoutNulls := by
  unfold sectionOf
  rw [given?_withoutNulls h]
  cases d.given? key <;> rfl

end Json.Value

/-! ## Readers that do not look into objects -/

namespace Json.Source

variable {α : Type} {read : Source → Reading α}

/-- Whether a reader makes the same of a value with and without nulls. -/
def Overlooks (read : Source → Reading α) (v : Value) : Prop :=
  read v.withoutNulls.toSource = read v.toSource

theorem overlooks_of_not_isObject {v : Value} (h : v.isObject = false) : Overlooks read v := by
  rw [Overlooks, Value.withoutNulls_of_not_isObject h]

theorem overlooks_readText (v : Value) : Overlooks readText v := by
  cases v <;> rfl

theorem overlooks_readCount (v : Value) : Overlooks readCount v := by
  cases v <;> rfl

theorem Overlooks.map {β : Type} {v : Value} (h : Overlooks read v) (f : α → β) :
    Overlooks (fun s => (read s).map f) v :=
  congrArg (Except.map f) h

theorem readOr_withoutNulls {given : Option Value}
    (h : ∀ v, given = some v → Overlooks read v) (otherwise : α) :
    readOr read otherwise (given.map Value.withoutNulls) = readOr read otherwise given := by
  cases given with
  | none => rfl
  | some v => exact h v rfl

end Json.Source

/-! ## Sections and documents -/

section Overlay

variable {v : Value}

theorem DetectionSettings.read_overlay_withoutNulls (ordered : v.IsOrdered) :
    read .value (baseSection.overlay v.withoutNulls).toSource =
      read .value (baseSection.overlay v).toSource := by
  cases ordered with
  | @object members ascending inside =>
    have hgiven := Value.given?_withoutNulls (.object ascending inside)
    rw [Value.withoutNulls] at hgiven ⊢
    rw [read_overlay ascending, read_overlay (Value.ascending_givenMembers ascending), hgiven,
      hgiven, readOr_withoutNulls fun v _ => overlooks_readCount v,
      readOr_withoutNulls fun v _ => (overlooks_readText v).map some]
  | null | bool _ | number _ | text _ | array _ => rfl

theorem LogSettings.read_overlay_withoutNulls (ordered : v.IsOrdered)
    (format : ∀ w, v.given? "format" = some w → w.isObject = false) :
    read .value (baseSection.overlay v.withoutNulls).toSource =
      read .value (baseSection.overlay v).toSource := by
  cases ordered with
  | @object members ascending inside =>
    have hgiven := Value.given?_withoutNulls (.object ascending inside)
    rw [Value.withoutNulls] at hgiven ⊢
    rw [read_overlay ascending, read_overlay (Value.ascending_givenMembers ascending), hgiven,
      hgiven, readOr_withoutNulls fun w hw => overlooks_of_not_isObject (format w hw),
      readOr_withoutNulls fun v _ => overlooks_readText v]
  | null | bool _ | number _ | text _ | array _ => rfl

end Overlay

namespace Settings

variable {d : Value}

/-- A document laid over the base comes to the same with and without nulls, unless it gives the form
    of the journal as an object. -/
theorem ofValue_overlay_withoutNulls (ordered : d.IsOrdered) (object : d.isObject = true)
    (format : ∀ v, d.at? ["logging", "format"] = some v → v.isObject = false) :
    ofValue (baseDocument.overlay d.withoutNulls) = ofValue (baseDocument.overlay d) := by
  have hformat : ∀ w, (d.sectionOf "logging").given? "format" = some w → w.isObject = false :=
    fun w hw => format w (Value.at?_of_given?_sectionOf hw)
  -- both sides section by section, and each section by what it gives
  rw [ofValue_overlay_sections ordered object,
    ofValue_overlay_sections ordered.withoutNulls (by simpa using object),
    Value.sectionOf_withoutNulls ordered, Value.sectionOf_withoutNulls ordered,
    DetectionSettings.read_overlay_withoutNulls (ordered.sectionOf _),
    LogSettings.read_overlay_withoutNulls (ordered.sectionOf _) hformat,
    Value.given?_withoutNulls ordered,
    readOr_withoutNulls fun v _ => overlooks_readText v]

/-- The form of the journal may be given as an object with `null` below its name, and then the
    `null` matters. -/
example :
    let d : Value := .object [("logging", .object [("format", .object [("json", .null)])])]
    (ofValue (baseDocument.overlay d)).toOption = some { logging := { format := .json } } ∧
      (ofValue (baseDocument.overlay d.withoutNulls)).toOption = none := by
  decide

/-- Files that are read alike, and are found alike, are loaded alike. -/
theorem load_congr {file other : SettingsFile} (same : ofFile other.content = ofFile file.content)
    (found : readingEntry other = readingEntry file) (env : Environment) :
    load other env = load file env := by
  cases hfile : ofFile file.content with
  | error e => rw [load_of_error hfile, load_of_error (same.trans hfile), found]
  | ok s => rw [load_of_ok hfile, load_of_ok (same.trans hfile), found]

theorem readingEntry_of_holds {file : SettingsFile} (h : file.Holds d) :
    readingEntry file = .write .debug "loading settings from file"
      [("path", .shown (Text.quoted file.path))] := by
  obtain ⟨content, -, hcontent, -⟩ := h
  unfold readingEntry
  rw [hcontent]

/-- In a settings file a null is as good as nothing: a file that holds a document without its nulls
    is loaded as one that holds it with them, whatever the environment, to the same settings or with
    the same error. If the two are at the same path, the same is written down, too. -/
theorem load_withoutNulls {file other : SettingsFile} (h : file.Holds d)
    (hother : other.Holds d.withoutNulls) (object : d.isObject = true)
    (format : ∀ v, d.at? ["logging", "format"] = some v → v.isObject = false)
    (env : Environment) :
    (load other env).1 = (load file env).1 ∧
      (other.path = file.path → load other env = load file env) := by
  have same : ofFile other.content = ofFile file.content := by
    rw [ofFile_of_holds h, ofFile_of_holds hother,
      ofValue_overlay_withoutNulls (isOrdered_of_holds h) object format]
  constructor
  · rw [load_eq, load_eq, same]
  · intro path
    refine load_congr same ?_ env
    rw [readingEntry_of_holds h, readingEntry_of_holds hother, path]

/-- A file holds the text of a document, which is read back. -/
theorem holds_render (path : String) (whole : d.IsWhole)
    (readable : d.toSource.value? depthLimit = some d) :
    (SettingsFile.mk path (.bytes d.render.toUTF8)).Holds d :=
  holds_ofText? ((Value.ofText?_render whole).trans readable)

/-- Nulls in the place of fields and of a member that nobody knows, and one below a field that must
    not be an object. With and without them it is the same fault. -/
theorem load_withoutNulls_mistyped :
    ∃ (file other : SettingsFile) (d : Value), file.Holds d ∧ other.Holds d.withoutNulls ∧
      d.at? ["detector", "room", "name"] = some .null ∧
      d.withoutNulls.at? ["detector", "room", "name"] = none ∧
      d.at? ["logging", "level"] = some .null ∧ d.withoutNulls.at? ["logging", "level"] = none ∧
      d.at? ["logging", "format"] = some (.text "json") ∧
      ∀ env, load other env = load file env ∧
        (load other env).1 = .error (.json (.invalidType .map "a string")) := by
  let d : Value := .object
    [("detector", .object [("eventCapacity", .null), ("room", .object [("name", .null)])]),
      ("extra", .object [("a", .null), ("b", .array [.null])]),
      ("logging", .object [("format", .text "json"), ("level", .null)])]
  have holds : (SettingsFile.mk "settings.json" (.bytes d.render.toUTF8)).Holds d :=
    holds_render _ (by simp [d, Value.IsWhole, MembersWhole, ItemsWhole]) rfl
  have hother : (SettingsFile.mk "settings.json" (.bytes d.withoutNulls.render.toUTF8)).Holds
      d.withoutNulls := by
    refine holds_render _ ?_ rfl
    simp [d, Value.withoutNulls, Value.givenMembers, Value.isNull, Value.IsWhole, MembersWhole,
      ItemsWhole]
  have format : ∀ v, d.at? ["logging", "format"] = some v → v.isObject = false := by
    rintro _ ⟨⟩
    rfl
  have same := load_withoutNulls holds hother rfl format
  refine ⟨_, _, d, holds, hother, rfl, rfl, rfl, rfl, rfl, fun env => ⟨(same env).2 rfl, ?_⟩⟩
  rw [load_eq, ofFile_of_holds hother]
  rfl

end Settings

end WorkerRoster
