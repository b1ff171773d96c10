import WorkerRoster.Json.Overlay
import WorkerRoster.Json.Source

/-!
# Documents in Key Order

What was read from a text has the members of its objects in ascending key order, at every depth.
Where no key is there twice, an object can be looked at key by key, and so can be what laying one
object over another does.

## Main statements

- `Json.Value.lookup_overlayMembers`: one object laid over another, key by key
- `Json.Source.isOrdered_value?`: whatever has been read is in key order
-/

set_option autoImplicit false

namespace WorkerRoster

namespace Keyed

variable {α : Type} {key : String} {a : α} {members : List (String × α)}

theorem lookup_eq_none_of_lt (h : ∀ m ∈ members, key < m.1) : members.lookup key = none := by
  rw [List.lookup_eq_none_iff]
  intro m hm
  have hne : key ≠ m.1 := Std.ne_of_lt (h m hm)
  simpa using hne

theorem mem_of_lookup (h : members.lookup key = some a) : (key, a) ∈ members := by
  obtain ⟨before, after, rfl, -⟩ := List.lookup_eq_some_iff.1 h
  simp

theorem Ascending.tail {m : String × α} (h : Ascending (m :: members)) : Ascending members :=
  (List.pairwise_cons.1 h).2

theorem Ascending.lookup_head (h : Ascending ((key, a) :: members)) :
    members.lookup key = none :=
  lookup_eq_none_of_lt (List.pairwise_cons.1 h).1

end Keyed

namespace Json

namespace Value

/-! ## Key by key -/

/-- The member of a key, where `null` is as good as nothing. -/
def given? (v : Value) (key : String) : Option Value :=
  (v.get? key).filter (!·.isNull)

/-- Whether a value is an object. -/
def isObject : Value → Bool
  | .object _ => true
  | .null | .bool _ | .number _ | .text _ | .array _ => false

variable {members changes : List (String × Value)}

/-- What has no members is replaced as a whole. -/
theorem overlay_of_not_isObject {base : Value} (h : base.isObject = false) (change : Value) :
    base.overlay change = change := by
  cases change with
  | object changes =>
    cases base with
    | object members => cases h
    | null | bool _ | number _ | text _ | array _ => rfl
  | null | bool _ | number _ | text _ | array _ => rfl

theorem overlay_of_not_isObject' {change : Value} (h : change.isObject = false) (base : Value) :
    base.overlay change = change := by
  cases change with
  | object changes => cases h
  | null | bool _ | number _ | text _ | array _ => rfl

theorem overlay_object (members changes : List (String × Value)) :
    (Value.object members).overlay (.object changes) =
      .object (overlayMembers members changes) :=
  rfl

/-- What becomes of a member, or of none, with another or nothing laid over it. -/
def overlay? : Option Value → Option Value → Option Value
  | base, none => base
  | none, some change => some change
  | some base, some change => some (base.overlay change)

theorem given?_object (members : List (String × Value)) (key : String) :
    (Value.object members).given? key = (members.lookup key).filter (!·.isNull) :=
  rfl

theorem given?_cons (k key : String) (v : Value) :
    (Value.object ((k, v) :: members)).given? key =
      if key = k then (if v.isNull then none else some v)
      else (Value.object members).given? key := by
  unfold given?
  simp only [get?, Keyed.lookup_cons_eq_ite]
  by_cases hk : key = k
  · cases hnull : v.isNull <;> simp [hk, Option.filter_some, hnull]
  · simp [hk]

theorem given?_head (k : String) {v : Value} (h : Keyed.Ascending ((k, v) :: members)) :
    (Value.object members).given? k = none := by
  simp [given?, get?, h.lookup_head]

/-- One object laid over another, key by key. -/
theorem lookup_overlayMembers (h : Keyed.Ascending changes) (key : String) :
    (overlayMembers members changes).lookup key =
      overlay? (members.lookup key) ((Value.object changes).given? key) := by
  induction changes generalizing members with
  | nil => rfl
  | cons m rest ih =>
    obtain ⟨k, change⟩ := m
    have hrest := given?_head k h
    rw [given?_cons]
    unfold overlayMembers
    split
    · -- the member is skipped, and no later one has its key
      next hnull =>
      rw [ih h.tail]
      split
      · next hk => rw [hk, hrest]
      · rfl
    · next hnull =>
      rw [ih h.tail]
      by_cases hk : key = k
      · rw [if_pos hk, hk, hrest, Keyed.lookup_put_self]
        cases members.lookup k <;> rfl
      · rw [if_neg hk, Keyed.lookup_put_of_ne hk]

theorem ascending_overlayMembers (h : Keyed.Ascending members) :
    Keyed.Ascending (overlayMembers members changes) := by
  induction changes generalizing members with
  | nil => exact h
  | cons m rest ih =>
    obtain ⟨k, change⟩ := m
    unfold overlayMembers
    split
    · exact ih h
    · exact ih (Keyed.ascending_put k _ h)

/-! ## Order at every depth -/

/-- All objects have their members in ascending key order. -/
inductive IsOrdered : Value → Prop where
  | null : IsOrdered .null
  | bool (flag : Bool) : IsOrdered (.bool flag)
  | number (n : Number) : IsOrdered (.number n)
  | text (s : String) : IsOrdered (.text s)
  | array {items : List Value} (inside : ∀ v ∈ items, IsOrdered v) : IsOrdered (.array items)
  | object {members : List (String × Value)} (ascending : Keyed.Ascending members)
      (inside : ∀ m ∈ members, IsOrdered m.2) : IsOrdered (.object members)

theorem IsOrdered.ascending (h : (Value.object members).IsOrdered) : Keyed.Ascending members := by
  cases h with
  | object ascending => exact ascending

theorem IsOrdered.of_given? {v w : Value} {key : String} (h : v.IsOrdered)
    (given : v.given? key = some w) : w.IsOrdered := by
  have hget : v.get? key = some w := (Option.filter_eq_some_iff.1 given).1
  cases h with
  | object ascending inside => exact inside (key, w) (Keyed.mem_of_lookup hget)
  | null | bool _ | number _ | text _ | array _ => cases hget

end Value

namespace Source

open Value

-- A value may hold arrays and objects at any depth, so the three are proved together.
mutual

/-- Whatever has been read is in key order. -/
theorem isOrdered_value? {depth : Nat} {v : Value} :
    ∀ {s : Source}, s.value? depth = some v → v.IsOrdered
  | .null, h => by
    cases h
    exact .null
  | .bool flag, h => by
    cases h
    exact .bool flag
  | .number n, h => by
    cases h
    exact .number n
  | .text s, h => by
    cases h
    exact .text s
  | .array items .closed, h => by
    rw [value?] at h
    split at h
    · cases h
    · obtain ⟨vs, hvs, rfl⟩ := Option.map_eq_some_iff.1 h
      exact .array (isOrdered_itemValues? hvs)
  | .object members .closed, h => by
    rw [value?] at h
    split at h
    · cases h
    · obtain ⟨vs, hvs, rfl⟩ := Option.map_eq_some_iff.1 h
      obtain ⟨ascending, inside⟩ := isOrdered_memberValues? hvs .nil nofun
      exact .object ascending inside
  | .array _ .broken, h | .object _ .broken, h | .unreadable, h | .broken, h => by
    simp [value?] at h

theorem isOrdered_itemValues? {depth : Nat} {vs : List Value} :
    ∀ {items : List Source}, itemValues? depth items = some vs → ∀ v ∈ vs, v.IsOrdered
  | [], h => by
    cases h
    exact nofun
  | s :: rest, h => by
    rw [itemValues?] at h
    split at h
    · next v hv =>
      obtain ⟨ws, hws, rfl⟩ := Option.map_eq_some_iff.1 h
      intro w hw
      rcases List.mem_cons.1 hw with rfl | hw
      · exact isOrdered_value? hv
      · exact isOrdered_itemValues? hws w hw
    · cases h

theorem isOrdered_memberValues? {depth : Nat} {vs : List (String × Value)} :
    ∀ {members : List (Option String × Source)} {before : List (String × Value)},
      memberValues? depth members before = some vs → Keyed.Ascending before →
      (∀ m ∈ before, m.2.IsOrdered) → Keyed.Ascending vs ∧ ∀ m ∈ vs, m.2.IsOrdered
  | [], before, h, ascending, inside => by
    cases h
    exact ⟨ascending, inside⟩
  | (some key, s) :: rest, before, h, ascending, inside => by
    rw [memberValues?] at h
    split at h
    · next v hv =>
      apply isOrdered_memberValues? h (Keyed.ascending_put key v ascending)
      intro m hm
      rcases Keyed.mem_of_mem_put hm with rfl | hm
      · exact isOrdered_value? hv
      · exact inside m hm
    · cases h
  | (none, _) :: _, _, h, _, _ => by
    simp [memberValues?] at h

end

end Source

end Json

end WorkerRoster
