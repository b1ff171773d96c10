import Mathlib.Data.List.Permutation
import WorkerRoster.Announcement.Wire
import WorkerRoster.Presence.Wire
import WorkerRoster.Proofs.Json.Members
import WorkerRoster.Proofs.Json.Nesting
import WorkerRoster.Proofs.Json.Rendering

/-!
# Announcements and Presence in Transport

What is written of an announcement or a presence is read back as it was, so the status that a
presence announces is the same on either side. An announcement may also have been written by someone
else, with its members in another order and with members that mean nothing here. A reader keeps
those for later until it has met the kind, and keeps nothing that nests too deep; so it is not quite
enough that they are JSON.

## Main statements

- `Presence.ofText_render`, `Announcement.ofText_render`: what was written is read back
- `Announcement.ofText_eq_ok_iff`: an announcement among other members is read if they can be kept
- `wire_forms_read_back`: all of it in one statement
-/

set_option autoImplicit false

namespace WorkerRoster

open Json

/-! ## Presence -/

namespace Extension

variable {e : Extension}

theorem isWhole_toValue (e : Extension) : e.toValue.IsWhole := by
  unfold toValue
  simp only [Value.IsWhole, MembersWhole, membersWhole_iff, true_and, and_true]
  intro m hm
  obtain ⟨a, -, rfl⟩ := List.mem_map.1 hm
  trivial

/-- Attributes in the order of their names are read one behind the other. -/
theorem readMembers_attributes {before attributes : List (String × String)}
    (h : Keyed.Ascending (before ++ attributes)) :
    Source.readMembers
      (fun before key s => some ((Source.readText s).map fun v => Keyed.put key v before))
      before .closed (memberSources (attributes.map fun (k, v) => (k, .text v))) =
      .ok (before ++ attributes) := by
  induction attributes generalizing before with
  | nil => simp [memberSources, Source.readMembers]
  | cons a rest ih =>
    obtain ⟨k, v⟩ := a
    -- each name comes behind all before it, so none is put in their middle or in their place
    have hlast : Keyed.put k v before = before ++ [(k, v)] := by
      apply Keyed.put_of_forall_lt
      intro m hm
      exact (List.pairwise_append.1 h).2.2 m hm (k, v) List.mem_cons_self
    have hrest : Keyed.Ascending ((before ++ [(k, v)]) ++ rest) := by simpa using h
    replace hrest := ih hrest
    simpa [memberSources, Source.readMembers, Value.toSource, Source.readText, Except.map, hlast]
      using hrest

theorem read_toSource_toValue (h : Keyed.Ascending e.attributes) :
    read e.toValue.toSource = .ok e := by
  have hattributes : readAttributes
      (.object (memberSources (e.attributes.map fun (k, v) => (k, .text v))) .closed) =
        .ok e.attributes := readMembers_attributes h
  simp [toValue, Value.toSource, memberSources, read, Source.readMembers, readMember, Source.fill,
    Source.readText, hattributes, Except.map, Draft.finish, bind, Except.bind]

end Extension

namespace Presence

variable {p : Presence}

theorem isWhole_toValue (p : Presence) : p.toValue.IsWhole := by
  have hextensions : ItemsWhole (p.extensions.map Extension.toValue) := by
    simp [itemsWhole_iff, Extension.isWhole_toValue]
  simp [toValue, Value.IsWhole, MembersWhole, hextensions]

theorem readItems_extensions {extensions : List Extension}
    (h : ∀ e ∈ extensions, Keyed.Ascending e.attributes) :
    Source.readItems Extension.read .closed (itemSources (extensions.map Extension.toValue)) =
      .ok extensions := by
  induction extensions with
  | nil => simp [itemSources, Source.readItems]
  | cons e rest ih =>
    have hrest := ih fun e' he' => h e' (List.mem_cons_of_mem _ he')
    simp [itemSources, Source.readItems, Extension.read_toSource_toValue (h e List.mem_cons_self),
      hrest, Except.map]

/-- A presence is read back from its text. -/
theorem ofText_render (h : ∀ e ∈ p.extensions, Keyed.Ascending e.attributes) :
    ofText p.toValue.render = .ok p := by
  have hextensions : readExtensions
      (.array (itemSources (p.extensions.map Extension.toValue)) .closed) = .ok p.extensions :=
    readItems_extensions h
  apply Document.read_ofText_render p.isWhole_toValue
  simp [toValue, Value.toSource, memberSources, read, Source.readMembers, readMember, Source.fill,
    hextensions, Except.map, bind, Except.bind, pure, Except.pure]

end Presence

/-! ## Announcements -/

namespace Announcement

variable {e : Announcement} {extras members : List (Option String × Source)}

theorem isWhole_toValue (e : Announcement) : e.toValue.IsWhole := by
  cases e <;> simp [toValue, Value.IsWhole, MembersWhole]

/-- An announcement is read back from its text. -/
theorem ofText_render (e : Announcement) : ofText e.toValue.render = .ok e := by
  apply Document.read_ofText_render e.isWhole_toValue
  cases e <;> rfl

/-- The member `type` of an announcement's text is its kind. -/
theorem exists_ofText?_render (e : Announcement) :
    ∃ d, Value.ofText? e.toValue.render = some d ∧ d.get? "type" = some (.text e.kind) := by
  rw [Value.ofText?_render e.isWhole_toValue]
  cases e <;> exact ⟨_, rfl, rfl⟩

/-! ## Announcements among other members -/

/-- The names of the members that a reader of announcements has a use for. -/
def fieldNames : List String :=
  ["type", "worker", "available"]

/-- Whether a member is one of the fields that are read when the kind is known. -/
def isField (m : Option String × Source) : Bool :=
  m.1 = some "worker" || m.1 = some "available"

theorem isField_of_unknown {key : String} (h : key ∉ fieldNames) (s : Source) :
    isField (some key, s) = false := by
  simp_all [isField, fieldNames]

/-- The members of an announcement, as they are written. -/
def written (e : Announcement) : List (Option String × Source) :=
  match e.toValue with
  | .object members => memberSources members
  | _ => []

/-- Whether an object holds the members of an announcement, in any order, and besides them only
    members of other names, each of which is JSON by itself. -/
structure IsWrittenIn (e : Announcement) (extras members : List (Option String × Source)) :
    Prop where
  perm : members.Perm (e.written ++ extras)
  other : ∀ x ∈ extras, ∃ key, x.1 = some key ∧ key ∉ fieldNames
  isJson : ∀ x ∈ extras, (x.2.value? depthLimit).isSome

theorem keep_eq_ok_iff {s : Source} : keep s = .ok () ↔ (s.value? (depthLimit - 1)).isSome := by
  unfold keep
  split <;> simp_all

theorem findKind_cons_of_ne {key : String} (h : key ≠ "type") (s : Source) (kind : Option Kind)
    (ending : Ending) (rest : List (Option String × Source)) :
    findKind kind ending ((some key, s) :: rest) =
      keep s >>= fun _ => findKind kind ending rest := by
  rw [findKind]
  exact fun heq => h heq

/-- Members that are kept do not matter to the kind. -/
theorem findKind_filter {ending : Ending}
    (kept : ∀ m ∈ members, m.1 ≠ some "type" → (∃ key, m.1 = some key) ∧ keep m.2 = .ok ())
    (kind : Option Kind) :
    findKind kind ending members =
      findKind kind ending (members.filter (·.1 = some "type")) := by
  induction members generalizing kind with
  | nil => rfl
  | cons m rest ih =>
    have hrest := ih fun n hn => kept n (List.mem_cons_of_mem _ hn)
    obtain ⟨key, s⟩ := m
    by_cases hkey : key = some "type"
    · subst hkey
      rw [List.filter_cons_of_pos (by simp)]
      -- whatever it is read as, the rest goes on with that
      simp only [findKind, hrest]
    · obtain ⟨⟨k, rfl⟩, hkeep⟩ := kept (key, s) List.mem_cons_self hkey
      have hne : k ≠ "type" := fun heq => hkey (congrArg some heq)
      rw [List.filter_cons_of_neg (by simpa using hne), findKind_cons_of_ne hne, hkeep]
      exact hrest kind

/-- Nothing is passed over that is not kept. -/
theorem keep_of_findKind {kind kind' : Option Kind} {ending : Ending}
    (h : findKind kind ending members = .ok kind') :
    ∀ m ∈ members, m.1 ≠ some "type" → keep m.2 = .ok () := by
  induction members generalizing kind with
  | nil => simp
  | cons m rest ih =>
    obtain ⟨key, s⟩ := m
    match key with
    | none => cases h
    | some key =>
      by_cases hkey : key = "type"
      · subst hkey
        obtain ⟨kind₁, -, hrest⟩ := Reading.of_bind_eq_ok h
        simpa using ih hrest
      · rw [findKind_cons_of_ne hkey] at h
        obtain ⟨⟨⟩, hkeep, hrest⟩ := Reading.of_bind_eq_ok h
        simpa [hkeep] using ih hrest

theorem readMember_of_unknown {key : String} (h : key ∉ fieldNames) (kind : Kind) (d : Draft)
    (s : Source) : readMember kind d key s = none := by
  unfold readMember
  split <;> simp_all [fieldNames]

theorem read_object {kind : Kind} {ending : Ending}
    (h : findKind none ending members = .ok (some kind)) :
    read (.object members ending) =
      Source.readMembers (readMember kind) {} .closed
        (members.filter (·.1 ≠ some "type")) >>= fun d => d.finish kind := by
  rw [read, h]
  rfl

/-- The members of an announcement go by known names, and are kept. -/
theorem of_mem_written {m : Option String × Source} (h : m ∈ e.written) :
    (∃ key ∈ fieldNames, m.1 = some key) ∧ keep m.2 = .ok () := by
  cases e with
  | availability w b =>
    simp only [written, toValue, memberSources, List.mem_cons, List.not_mem_nil, or_false] at h
    rcases h with rfl | rfl | rfl <;> exact ⟨⟨_, by simp [fieldNames], rfl⟩, rfl⟩
  | offline w =>
    simp only [written, toValue, memberSources, List.mem_cons, List.not_mem_nil, or_false] at h
    rcases h with rfl | rfl <;> exact ⟨⟨_, by simp [fieldNames], rfl⟩, rfl⟩

namespace IsWrittenIn

theorem mem_iff (h : e.IsWrittenIn extras members) {m : Option String × Source} :
    m ∈ members ↔ m ∈ e.written ∨ m ∈ extras := by
  rw [h.perm.mem_iff, List.mem_append]

/-- There is no further member of a known name. -/
theorem filter_perm (h : e.IsWrittenIn extras members) {p : Option String × Source → Bool}
    (known : ∀ key s, key ∉ fieldNames → p (some key, s) = false) :
    (members.filter p).Perm (e.written.filter p) := by
  have hextras : extras.filter p = [] := by
    rw [List.filter_eq_nil_iff]
    rintro ⟨name, s⟩ hx
    obtain ⟨key, rfl, hother⟩ := h.other _ hx
    simp [known key s hother]
  have hfilter := h.perm.filter p
  rwa [List.filter_append, hextras, List.append_nil] at hfilter

theorem keep_iff (h : e.IsWrittenIn extras members) {x : Option String × Source}
    (hx : x ∈ extras) : keep x.2 = .ok () ↔ x.2.nesting < depthLimit - 1 := by
  rw [keep_eq_ok_iff, Source.isSome_value?_iff (h.isJson x hx) (by decide)]

/-- The kind is found if there is room for all members. -/
theorem findKind_eq (h : e.IsWrittenIn extras members)
    (shallow : ∀ x ∈ extras, x.2.nesting < depthLimit - 1) :
    findKind none .closed members =
      findKind none .closed [(some "type", .text e.kind)] := by
  have hkept : ∀ m ∈ members, m.1 ≠ some "type" →
      (∃ key, m.1 = some key) ∧ keep m.2 = .ok () := by
    intro m hm _
    -- texts and truth values can always be kept, others if there is room
    rcases h.mem_iff.1 hm with hown | hextra
    · obtain ⟨⟨key, -, hkey⟩, hkeep⟩ := of_mem_written hown
      exact ⟨⟨key, hkey⟩, hkeep⟩
    · obtain ⟨key, hkey, -⟩ := h.other m hextra
      exact ⟨⟨key, hkey⟩, (h.keep_iff hextra).2 (shallow m hextra)⟩
  have hperm : (members.filter (·.1 = some "type")).Perm
      (e.written.filter (·.1 = some "type")) := by
    apply h.filter_perm
    intro key s hother
    have hne : key ≠ "type" := fun heq => hother (by simp [heq, fieldNames])
    simpa using hne
  have hown : e.written.filter (·.1 = some "type") = [(some "type", .text e.kind)] := by
    cases e <;> rfl
  rw [hown] at hperm
  rw [findKind_filter hkept, List.perm_singleton.1 hperm]

/-- When the kind is known, only the fields matter. -/
theorem readMembers_eq (h : e.IsWrittenIn extras members) (kind : Kind) :
    Source.readMembers (readMember kind) {} .closed (members.filter (·.1 ≠ some "type")) =
      Source.readMembers (readMember kind) {} .closed (members.filter isField) := by
  have hfields : (members.filter (·.1 ≠ some "type")).filter isField = members.filter isField := by
    rw [List.filter_filter]
    apply List.filter_congr
    intro m _
    cases hfield : isField m with
    | false => rfl
    | true =>
      have hnames : m.1 = some "worker" ∨ m.1 = some "available" := by
        simpa [isField] using hfield
      rcases hnames with heq | heq <;> simp [heq]
  rw [← hfields]
  apply Source.readMembers_filter
  rintro ⟨name, s⟩ hm hfield
  obtain ⟨hmem, htype⟩ := List.mem_filter.1 hm
  rcases h.mem_iff.1 hmem with hown | hextra
  · -- of the announcement's own members only its type is no field
    obtain ⟨⟨key, hkey, rfl⟩, -⟩ := of_mem_written hown
    simp_all [isField, fieldNames]
  · obtain ⟨key, rfl, hother⟩ := h.other _ hextra
    exact ⟨Source.isSound_of_value? (h.isJson _ hextra), key, rfl,
      fun state => readMember_of_unknown hother kind state s⟩

end IsWrittenIn

theorem read_of_isWrittenIn (h : e.IsWrittenIn extras members)
    (shallow : ∀ x ∈ extras, x.2.nesting < depthLimit - 1) :
    read (.object members .closed) = .ok e := by
  have hperm := h.filter_perm fun _ s hother => isField_of_unknown hother s
  have hkind := h.findKind_eq shallow
  cases e with
  | availability w b =>
    rw [read_object (hkind.trans rfl), h.readMembers_eq]
    -- the two fields may come in either order
    rcases List.perm_pair.1 hperm with hfields | hfields <;> rw [hfields] <;> rfl
  | offline w =>
    rw [read_object (hkind.trans rfl), h.readMembers_eq, List.perm_singleton.1 hperm]
    rfl

theorem nesting_lt_of_read (h : e.IsWrittenIn extras members)
    (hread : read (.object members .closed) = .ok e) :
    ∀ x ∈ extras, x.2.nesting < depthLimit - 1 := by
  -- the kind was found, so everything on the way was kept
  obtain ⟨kind, hkind, -⟩ := Reading.of_bind_eq_ok hread
  intro x hx
  obtain ⟨key, hkey, hother⟩ := h.other x hx
  have hne : x.1 ≠ some "type" := by
    intro heq
    simp_all [fieldNames]
  exact (h.keep_iff hx).1 (keep_of_findKind hkind x (h.mem_iff.2 (.inr hx)) hne)

/-- An announcement is read from an object that holds its members and others, in any order, just if
    none of the others nests too deep to be kept. -/
theorem ofText_eq_ok_iff {text : String}
    (htext : Document.ofText text = ⟨.object members .closed, true⟩)
    (h : e.IsWrittenIn extras members) :
    ofText text = .ok e ↔ ∀ x ∈ extras, x.2.nesting < depthLimit - 1 := by
  unfold ofText
  rw [htext, Document.read]
  constructor
  · intro hread
    apply nesting_lt_of_read h
    cases hvalue : read (.object members .closed) with
    | error fault => simp [hvalue] at hread
    | ok e' => simpa [hvalue] using hread
  · intro shallow
    rw [read_of_isWrittenIn h shallow]
    rfl

end Announcement

/-- The written forms of announcements and presence are read back, and the member `type` of an
    announcement's text is its kind. An announcement is also read from a text that has its members
    in any order and others of other names that are JSON by themselves, just if none of these nests
    arrays and objects too deep to stand inside the object. -/
theorem wire_forms_read_back :
    (∀ e : Announcement, Announcement.ofText e.toValue.render = .ok e ∧
      ∃ d, Value.ofText? e.toValue.render = some d ∧ d.get? "type" = some (.text e.kind)) ∧
    (∀ p : Presence, (∀ x ∈ p.extensions, Keyed.Ascending x.attributes) →
      Presence.ofText p.toValue.render = .ok p) ∧
    ∀ (e : Announcement) (text : String) (extras members : List (Option String × Source)),
      Document.ofText text = ⟨.object members .closed, true⟩ → e.IsWrittenIn extras members →
      (Announcement.ofText text = .ok e ↔ ∀ x ∈ extras, x.2.nesting < depthLimit - 1) :=
  ⟨fun e => ⟨e.ofText_render, e.exists_ofText?_render⟩, fun _ h => Presence.ofText_render h,
    fun _ _ _ _ htext h => Announcement.ofText_eq_ok_iff htext h⟩

/-- Of two extensions one has attributes that need escapes, and the members of an announcement come
    last first, behind another member and between blanks. -/
theorem wire_forms_read_back_reordered :
    ∃ p text extras members,
      (∀ x ∈ p.extensions, Keyed.Ascending x.attributes) ∧
      p.status? = some .busy ∧ Presence.ofText p.toValue.render = .ok p ∧
      Document.ofText text = ⟨.object members .closed, true⟩ ∧
      (Announcement.availability ⟨"a\"é"⟩ false).IsWrittenIn extras members ∧
      Announcement.ofText text = .ok (.availability ⟨"a\"é"⟩ false) := by
  let p : Presence :=
    ⟨[⟨"urn:room", "nick", [("first", "\t\x01"), ("second", "\\")]⟩, Extension.announcing .busy]⟩
  have hascending : ∀ x ∈ p.extensions, Keyed.Ascending x.attributes := by decide +kernel
  have htext : Document.ofText " \x7b\"note\": [[17, null], \x7b\x7d], \"available\": false,
      \"worker\": \"a\\\"\\u00e9\", \"type\": \"availability_changed\"\x7d " =
      ⟨.object
        [(some "note", .array
            [.array [.number (.natural 17), .null] .closed, .object [] .closed] .closed),
          (some "available", .bool false), (some "worker", .text "a\"é"),
          (some "type", .text "availability_changed")] .closed,
        true⟩ := by
    rfl
  let note : Source :=
    .array [.array [.number (.natural 17), .null] .closed, .object [] .closed] .closed
  have hwritten : (Announcement.availability ⟨"a\"é"⟩ false).IsWrittenIn [(some "note", note)]
      [(some "note", note), (some "available", .bool false), (some "worker", .text "a\"é"),
        (some "type", .text "availability_changed")] :=
    { perm := List.reverse_perm
        ((Announcement.availability ⟨"a\"é"⟩ false).written ++ [(some "note", note)])
      other := by simp [Announcement.fieldNames]
      isJson := by
        simp [note, Source.value?, Source.itemValues?, Source.memberValues?, depthLimit] }
  obtain ⟨-, hpresence, hannouncement⟩ := wire_forms_read_back
  refine ⟨p, _, _, _, hascending, rfl, hpresence p hascending, htext, hwritten, ?_⟩
  rw [hannouncement _ _ _ _ htext hwritten]
  simp [note, Source.nesting, Source.itemsNesting, Source.membersNesting, depthLimit]

/-! ## Too deep to be kept -/

/-- Arrays inside one another, one more than a number says. -/
def nestedArrays : Nat → Value
  | 0 => .array []
  | n + 1 => .array [nestedArrays n]

theorem isWhole_nestedArrays (n : Nat) : (nestedArrays n).IsWhole := by
  induction n with
  | zero => simp [nestedArrays, Value.IsWhole, ItemsWhole]
  | succ n ih => simpa [nestedArrays, Value.IsWhole, ItemsWhole] using ih

theorem nesting_nestedArrays (n : Nat) : (nestedArrays n).toSource.nesting = n + 1 := by
  induction n with
  | zero => rfl
  | succ n ih =>
    simp [nestedArrays, Value.toSource, itemSources, Source.nesting, Source.itemsNesting, ih]

theorem isSome_value?_nestedArrays {n depth : Nat} (h : n + 1 < depth) :
    ((nestedArrays n).toSource.value? depth).isSome := by
  induction n generalizing depth with
  | zero => exact Source.isSome_value?_array.2 ⟨h, rfl⟩
  | succ n ih =>
    have hinner := ih (Nat.lt_sub_of_add_lt h)
    rw [nestedArrays, Value.toSource, Source.isSome_value?_array, itemSources,
      Source.isSome_itemValues?_cons]
    exact ⟨by omega, hinner, rfl⟩

/-- What is JSON by itself may be too deep to stand inside an announcement. -/
theorem not_ofText_of_nestedArrays :
    (Value.ofText? (nestedArrays 126).render).isSome ∧
    (∃ members,
      Document.ofText (Value.object [("type", .text "went_offline"), ("worker", .text "w"),
        ("x", nestedArrays 126)]).render = ⟨.object members .closed, true⟩ ∧
      (Announcement.offline ⟨"w"⟩).IsWrittenIn [(some "x", (nestedArrays 126).toSource)] members) ∧
    Announcement.ofText (Value.object [("type", .text "went_offline"), ("worker", .text "w"),
      ("x", nestedArrays 126)]).render ≠ .ok (.offline ⟨"w"⟩) := by
  have hvalue := isSome_value?_nestedArrays (show 126 + 1 < depthLimit by decide)
  have hwhole : (Value.object [("type", .text "went_offline"), ("worker", .text "w"),
      ("x", nestedArrays 126)]).IsWhole :=
    ⟨trivial, trivial, isWhole_nestedArrays 126, trivial⟩
  have htext := Document.ofText_render hwhole
  have hwritten : (Announcement.offline ⟨"w"⟩).IsWrittenIn
      [(some "x", (nestedArrays 126).toSource)]
      (memberSources [("type", .text "went_offline"), ("worker", .text "w"),
        ("x", nestedArrays 126)]) :=
    { perm := .refl _
      other := by simp [Announcement.fieldNames]
      isJson := by simpa using hvalue }
  refine ⟨?_, ⟨_, htext, hwritten⟩, fun hread => ?_⟩
  · rw [Value.ofText?_render (isWhole_nestedArrays 126)]
    exact hvalue
  · have hshallow := (Announcement.ofText_eq_ok_iff htext hwritten).1 hread _ List.mem_cons_self
    rw [nesting_nestedArrays] at hshallow
    exact absurd hshallow (by decide)

end WorkerRoster
