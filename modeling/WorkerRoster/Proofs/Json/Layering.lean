import WorkerRoster.Proofs.Json.Overlay

/-!
# What Is Where in a Document Laid over Another

Laying changes over a base goes down both documents at the same time. What comes of it can be said
of each path of keys by itself. Where the changes hold anything but an object or `null`, that is
there; where they have nothing to say any more, the base shows through; and there is nothing that
neither of them has. Laying the same changes over the result once more changes nothing.

## Main statements

- `Json.Value.get?_overlay`: one member of a document laid over another
- `Json.Value.at?_overlay`: what is at a path
- `Json.Value.overlay_idempotent`: the same changes once more change nothing
-/

set_option autoImplicit false

namespace WorkerRoster

namespace Keyed

variable {α : Type} {members others : List (String × α)}

/-- The first key of members in order is found only where no smaller one comes first. -/
theorem Ascending.le_of_lookup {key k : String} {a b : α} (h : Ascending ((k, b) :: members))
    (found : ((k, b) :: members).lookup key = some a) : k ≤ key := by
  refine String.not_lt.1 fun hlt => ?_
  have hnone : ((k, b) :: members).lookup key = none := by
    refine lookup_eq_none_of_lt fun m hm => ?_
    rcases List.mem_cons.1 hm with rfl | hm
    · exact hlt
    · exact String.lt_trans hlt ((List.pairwise_cons.1 h).1 m hm)
  rw [hnone] at found
  cases found

/-- Members in key order are told apart by looking them up. -/
theorem Ascending.eq_of_lookup (h : Ascending members) (h' : Ascending others)
    (same : ∀ key, members.lookup key = others.lookup key) : members = others := by
  induction members generalizing others with
  | nil =>
    cases others with
    | nil => rfl
    | cons m rest =>
      have hhead := same m.1
      rw [List.lookup_cons_self] at hhead
      cases hhead
  | cons m rest ih =>
    obtain ⟨k, a⟩ := m
    have hhead := same k
    cases others with
    | nil =>
      rw [List.lookup_cons_self] at hhead
      cases hhead
    | cons m' rest' =>
      obtain ⟨k', a'⟩ := m'
      -- each of the two first keys is found on the other side
      have hhead' := same k'
      have hle : k' ≤ k := h'.le_of_lookup (hhead.symm.trans List.lookup_cons_self)
      have hle' : k ≤ k' := h.le_of_lookup (hhead'.trans List.lookup_cons_self)
      obtain rfl : k = k' := Std.le_antisymm hle' hle
      obtain rfl : a = a' := by simpa using hhead
      rw [ih h.tail h'.tail fun key => ?_]
      have hkey := same key
      rw [lookup_cons_eq_ite, lookup_cons_eq_ite] at hkey
      by_cases hk : key = k
      · rw [hk, h.lookup_head, h'.lookup_head]
      · simpa [hk] using hkey

end Keyed

namespace Json.Value

variable {base changes : Value} {key : String} {path : List String}

/-! ## Members -/

theorem given?_eq_some_iff {v w : Value} :
    v.given? key = some w ↔ v.get? key = some w ∧ w.isNull = false := by
  simp [given?, Option.filter_eq_some_iff]

/-- A member of an object laid over another: what the changes have there is laid over what the base
    has there. -/
theorem get?_overlay (hbase : base.isObject) (hchanges : changes.isObject)
    (ordered : changes.IsOrdered) (key : String) :
    (base.overlay changes).get? key = overlay? (base.get? key) (changes.given? key) := by
  cases ordered with
  | object ascending inside =>
    cases base with
    | object members => exact lookup_overlayMembers ascending key
    | null | bool _ | number _ | text _ | array _ => cases hbase
  | null | bool _ | number _ | text _ | array _ => cases hchanges

/-! ## Paths -/

/-- What is at a path of keys. -/
def at? (v : Value) : List String → Option Value
  | [] => some v
  | key :: path =>
    match v.get? key with
    | some member => member.at? path
    | none => none

/-- Whether a document has nothing to say of a path: it goes along the path through objects, up to a
    member that is missing or `null`. -/
def IsSilentAt (v : Value) (path : List String) : Prop :=
  ∃ before key after members, path = before ++ key :: after ∧
    v.at? before = some (.object members) ∧ (Value.object members).given? key = none

theorem at?_cons (v : Value) (key : String) (path : List String) :
    v.at? (key :: path) = (v.get? key).bind (·.at? path) := by
  rw [at?]
  cases v.get? key <;> rfl

/-- Only objects have anything behind them. -/
theorem isObject_of_get? {v w : Value} (h : v.get? key = some w) : v.isObject := by
  cases v with
  | object _ => rfl
  | null | bool _ | number _ | text _ | array _ => cases h

theorem isSilentAt_cons {v : Value} (h : v.IsSilentAt (key :: path)) :
    v.isObject ∧ (v.given? key = none ∨ ∃ w, v.given? key = some w ∧ w.IsSilentAt path) := by
  obtain ⟨before, k, after, members, hpath, hat, hnone⟩ := h
  cases before with
  | nil =>
    cases hpath
    cases hat
    exact ⟨rfl, .inl hnone⟩
  | cons k' before =>
    cases hpath
    rw [at?_cons] at hat
    obtain ⟨w, hw, hat⟩ := Option.bind_eq_some_iff.1 hat
    refine ⟨isObject_of_get? hw, .inr ⟨w, given?_eq_some_iff.2 ⟨hw, ?_⟩, ?_⟩⟩
    · -- there is an object at `w` or behind it
      cases w with
      | null => cases before <;> cases hat
      | object _ | bool _ | number _ | text _ | array _ => rfl
    · exact ⟨before, k, after, members, rfl, hat, hnone⟩

theorem not_isSilentAt_nil (v : Value) : ¬ v.IsSilentAt [] := by
  rintro ⟨before, key, after, members, hpath, -⟩
  simp at hpath

/-- What the changes hold, other than objects and `null`, is there afterwards. -/
theorem at?_overlay_of_said (base : Value) {changes v : Value} (ordered : changes.IsOrdered)
    {path : List String} (said : changes.at? path = some v) (notNull : v.isNull = false)
    (notObject : v.isObject = false) : (base.overlay changes).at? path = some v := by
  induction path generalizing base changes with
  | nil =>
    obtain rfl : changes = v := Option.some.inj said
    rw [overlay_of_not_isObject' notObject]
    exact said
  | cons key path ih =>
    cases hbase : base.isObject with
    | false => rwa [overlay_of_not_isObject hbase]
    | true =>
      rw [at?_cons] at said
      obtain ⟨w, hw, said⟩ := Option.bind_eq_some_iff.1 said
      have hgiven : changes.given? key = some w := by
        refine given?_eq_some_iff.2 ⟨hw, ?_⟩
        -- there is nothing behind `null`, and `v` is not `null` itself
        cases w with
        | null => cases path <;> cases said; cases notNull
        | object _ | bool _ | number _ | text _ | array _ => rfl
      rw [at?_cons, get?_overlay hbase (isObject_of_get? hw) ordered, hgiven]
      cases base.get? key with
      | none => exact said
      | some u => exact ih u (ordered.of_given? hgiven) said

/-- Where the changes have nothing to say any more, the base shows through. -/
theorem at?_overlay_of_isSilentAt {base changes v : Value} (ordered : changes.IsOrdered)
    {path : List String} (was : base.at? path = some v) (silent : changes.IsSilentAt path) :
    (base.overlay changes).at? path = some v := by
  induction path generalizing base changes with
  | nil => exact absurd silent changes.not_isSilentAt_nil
  | cons key path ih =>
    obtain ⟨hchanges, hgiven⟩ := isSilentAt_cons silent
    rw [at?_cons] at was
    obtain ⟨u, hu, was⟩ := Option.bind_eq_some_iff.1 was
    rw [at?_cons, get?_overlay (isObject_of_get? hu) hchanges ordered, hu]
    rcases hgiven with hnone | ⟨w, hw, hsilent⟩
    · rw [hnone]
      exact was
    · rw [hw]
      exact ih (ordered.of_given? hw) was hsilent

/-- What is there afterwards was in one of the two. -/
theorem isSome_at?_overlay {base changes : Value} (ordered : changes.IsOrdered)
    {path : List String} (found : ((base.overlay changes).at? path).isSome) :
    (base.at? path).isSome ∨ (changes.at? path).isSome := by
  induction path generalizing base changes with
  | nil => exact .inl rfl
  | cons key path ih =>
    cases hbase : base.isObject with
    | false =>
      rw [overlay_of_not_isObject hbase] at found
      exact .inr found
    | true =>
      cases hchanges : changes.isObject with
      | false =>
        rw [overlay_of_not_isObject' hchanges] at found
        exact .inr found
      | true =>
        rw [at?_cons, get?_overlay hbase hchanges ordered] at found
        rw [at?_cons, at?_cons]
        cases hgiven : changes.given? key with
        | none =>
          rw [hgiven] at found
          exact .inl found
        | some w =>
          rw [hgiven] at found
          rw [(given?_eq_some_iff.1 hgiven).1]
          cases hu : base.get? key with
          | none =>
            rw [hu] at found
            exact .inr found
          | some u =>
            rw [hu] at found
            exact ih (ordered.of_given? hgiven) found

/-- What is at a path of a document laid over another. What the changes hold there, other than an
    object or `null`, is there; where the changes have nothing to say any more, what the base holds
    is there; and where there is anything, one of the two has something. -/
theorem at?_overlay {changes : Value} (ordered : changes.IsOrdered) (base : Value)
    (path : List String) :
    (∀ v, changes.at? path = some v → v.isNull = false → v.isObject = false →
      (base.overlay changes).at? path = some v) ∧
    (∀ v, base.at? path = some v → changes.IsSilentAt path →
      (base.overlay changes).at? path = some v) ∧
    (((base.overlay changes).at? path).isSome →
      (base.at? path).isSome ∨ (changes.at? path).isSome) :=
  ⟨fun _ => at?_overlay_of_said base ordered, fun _ => at?_overlay_of_isSilentAt ordered,
    isSome_at?_overlay ordered⟩

/-- A room is set where there was none, a capacity shows through a `null`, and a list of members
    gives way to an object. -/
theorem at?_overlay_nested :
    ∃ base changes : Value, changes.IsOrdered ∧
      changes.at? ["detector", "room"] = some (.text "brewery") ∧
      (base.overlay changes).at? ["detector", "room"] = some (.text "brewery") ∧
      changes.IsSilentAt ["detector", "capacity"] ∧
      (base.overlay changes).at? ["detector", "capacity"] = some (.bool true) ∧
      ((base.overlay changes).at? ["members", "b"]).isSome ∧
      ((base.at? ["members", "b"]).isSome ∨ (changes.at? ["members", "b"]).isSome) := by
  let base : Value := .object [("detector", .object [("capacity", .bool true), ("room", .null)]),
    ("members", .array [.text "a"])]
  let changes : Value := .object [("detector", .object [("capacity", .null),
    ("room", .text "brewery")]), ("members", .object [("b", .null)])]
  have ordered : changes.IsOrdered := by
    refine .object (by decide) (List.forall_mem_cons.2 ⟨.object (by decide) ?_,
      List.forall_mem_singleton.2 (.object (by decide) (List.forall_mem_singleton.2 .null))⟩)
    exact List.forall_mem_cons.2 ⟨.null, List.forall_mem_singleton.2 (.text _)⟩
  have silent : changes.IsSilentAt ["detector", "capacity"] :=
    ⟨["detector"], "capacity", [], _, rfl, rfl, rfl⟩
  obtain ⟨said, -, -⟩ := at?_overlay ordered base ["detector", "room"]
  obtain ⟨-, shows, -⟩ := at?_overlay ordered base ["detector", "capacity"]
  obtain ⟨-, -, had⟩ := at?_overlay ordered base ["members", "b"]
  exact ⟨base, changes, ordered, rfl, said _ rfl rfl rfl, silent, shows _ rfl silent, rfl, had rfl⟩

/-! ## Once more -/

/-- A document laid over itself. -/
theorem overlay_self {v : Value} (ordered : v.IsOrdered) : v.overlay v = v := by
  induction ordered with
  | null | bool _ | number _ | text _ | array _ => rfl
  | @object members ascending inside ih =>
    rw [overlay_object]
    refine congrArg Value.object ?_
    refine (ascending_overlayMembers ascending).eq_of_lookup ascending fun key => ?_
    rw [lookup_overlayMembers ascending]
    cases hgiven : (Value.object members).given? key with
    | none => rfl
    | some w =>
      have hw : members.lookup key = some w := (given?_eq_some_iff.1 hgiven).1
      rw [hw]
      exact congrArg some (ih (key, w) (Keyed.mem_of_lookup hw))

/-- The same changes once more change nothing, and neither does a document laid over itself. -/
theorem overlay_idempotent {base changes : Value} (hbase : base.IsOrdered)
    (hchanges : changes.IsOrdered) :
    (base.overlay changes).overlay changes = base.overlay changes ∧
      changes.overlay changes = changes := by
  refine ⟨?_, overlay_self hchanges⟩
  induction hchanges generalizing base with
  | null | bool _ | number _ | text _ | array _ => rfl
  | @object changes ascending inside ih =>
    cases hbase with
    | null | bool _ | number _ | text _ | array _ => exact overlay_self (.object ascending inside)
    | @object members ascending' inside' =>
      rw [overlay_object, overlay_object]
      refine congrArg Value.object ?_
      have hmerged : Keyed.Ascending (overlayMembers members changes) :=
        ascending_overlayMembers ascending'
      refine (ascending_overlayMembers hmerged).eq_of_lookup hmerged fun key => ?_
      rw [lookup_overlayMembers ascending, lookup_overlayMembers ascending]
      cases hgiven : (Value.object changes).given? key with
      | none => rfl
      | some w =>
        have hw : changes.lookup key = some w := (given?_eq_some_iff.1 hgiven).1
        have hmem := Keyed.mem_of_lookup hw
        cases hu : members.lookup key with
        | none =>
          -- the change is all there is, and is laid over itself
          exact congrArg some (overlay_self (inside _ hmem))
        | some u => exact congrArg some (ih _ hmem (inside' _ (Keyed.mem_of_lookup hu)))

/-- A `null` is passed over in an object that was there, and kept in one that is new. -/
theorem overlay_idempotent_null :
    ∃ base changes : Value, base.IsOrdered ∧ changes.IsOrdered ∧
      base.overlay changes = .object [("a", .bool true), ("b", .object [("c", .null)])] ∧
      (base.overlay changes).overlay changes = base.overlay changes ∧
      changes.overlay changes = changes := by
  let base : Value := .object [("a", .bool true), ("b", .array [.null])]
  let changes : Value := .object [("a", .null), ("b", .object [("c", .null)])]
  have hbase : base.IsOrdered := by
    refine .object (by decide) (List.forall_mem_cons.2 ⟨.bool _, List.forall_mem_singleton.2 ?_⟩)
    exact .array (List.forall_mem_singleton.2 .null)
  have hchanges : changes.IsOrdered := by
    refine .object (by decide) (List.forall_mem_cons.2 ⟨.null, List.forall_mem_singleton.2 ?_⟩)
    exact .object (by decide) (List.forall_mem_singleton.2 .null)
  exact ⟨base, changes, hbase, hchanges, rfl, overlay_idempotent hbase hchanges⟩

end Json.Value

end WorkerRoster
