import WorkerRoster.Json.Source

/-!
# How Deep a Text Nests

A reader of values gives up where arrays and objects are nested too deep. Apart from that it does
not matter to it how deep it may go: whatever can be read at one depth can be read at every other
that the nesting stays below. So what can be read by itself can fail to be read inside something
else, and the nesting is the only reason for that.

## Main statements

- `Json.Source.isSome_value?_iff`: what can be read can be read wherever there is room for it
- `Json.Source.isSound_of_value?`: what can be read can be skipped
-/

set_option autoImplicit false

namespace WorkerRoster.Json.Source

mutual

/-- How deep arrays and objects are nested. -/
def nesting : Source → Nat
  | .array items _ => itemsNesting items + 1
  | .object members _ => membersNesting members + 1
  | .null | .bool _ | .number _ | .text _ | .unreadable | .broken => 0

/-- How deep they are nested in the items. -/
def itemsNesting : List Source → Nat
  | [] => 0
  | s :: rest => max s.nesting (itemsNesting rest)

/-- How deep they are nested in the values of the members. -/
def membersNesting : List (Option String × Source) → Nat
  | [] => 0
  | (_, s) :: rest => max s.nesting (membersNesting rest)

end

/-! ## What can be read -/

section

variable {depth : Nat} {before : List (String × Value)}

theorem isSome_value?_array {items : List Source} :
    ((array items .closed).value? depth).isSome ↔
      1 < depth ∧ (itemValues? (depth - 1) items).isSome := by
  rw [value?]
  split
  · simp
    omega
  · next hdeep => simp [Nat.lt_of_not_le hdeep]

theorem isSome_value?_object {members : List (Option String × Source)} :
    ((object members .closed).value? depth).isSome ↔
      1 < depth ∧ (memberValues? (depth - 1) members []).isSome := by
  rw [value?]
  split
  · simp
    omega
  · next hdeep => simp [Nat.lt_of_not_le hdeep]

theorem isSome_itemValues?_cons {s : Source} {rest : List Source} :
    (itemValues? depth (s :: rest)).isSome ↔
      (s.value? depth).isSome ∧ (itemValues? depth rest).isSome := by
  rw [itemValues?]
  cases s.value? depth <;> simp

theorem isSome_memberValues?_cons {key : Option String} {s : Source}
    {rest : List (Option String × Source)} :
    (memberValues? depth ((key, s) :: rest) before).isSome ↔
      ∃ k v, key = some k ∧ s.value? depth = some v ∧
        (memberValues? depth rest (Keyed.put k v before)).isSome := by
  cases key with
  | none => simp [memberValues?]
  | some k =>
    rw [memberValues?]
    cases s.value? depth <;> simp

end

-- Of two depths at which something is tried, both become one less inside an array or object.
mutual

/-- What can be read can be read wherever there is room for its nesting. -/
theorem isSome_value?_iff : ∀ {s : Source} {depth depth' : Nat}, (s.value? depth).isSome →
    0 < depth' → ((s.value? depth').isSome ↔ s.nesting < depth')
  | .null, _, _, _, hpos | .bool _, _, _, _, hpos | .number _, _, _, _, hpos
  | .text _, _, _, _, hpos => by simpa [value?, nesting] using hpos
  | .unreadable, _, _, h, _ | .broken, _, _, h, _ | .array _ .broken, _, _, h, _
  | .object _ .broken, _, _, h, _ => by simp [value?] at h
  | .array items .closed, depth, depth', h, _ => by
    rw [isSome_value?_array, nesting]
    by_cases hdeep : 1 < depth'
    · rw [isSome_itemValues?_iff (isSome_value?_array.1 h).2 (Nat.sub_pos_of_lt hdeep)]
      omega
    · omega
  | .object members .closed, depth, depth', h, _ => by
    rw [isSome_value?_object, nesting]
    by_cases hdeep : 1 < depth'
    · rw [isSome_memberValues?_iff (isSome_value?_object.1 h).2 (Nat.sub_pos_of_lt hdeep)]
      omega
    · omega

theorem isSome_itemValues?_iff : ∀ {items : List Source} {depth depth' : Nat},
    (itemValues? depth items).isSome → 0 < depth' →
    ((itemValues? depth' items).isSome ↔ itemsNesting items < depth')
  | [], _, _, _, hpos => by simpa [itemValues?, itemsNesting] using hpos
  | s :: rest, depth, depth', h, hpos => by
    obtain ⟨hs, hrest⟩ := isSome_itemValues?_cons.1 h
    rw [isSome_itemValues?_cons, isSome_value?_iff hs hpos, isSome_itemValues?_iff hrest hpos,
      itemsNesting, Nat.max_lt]

theorem isSome_memberValues?_iff : ∀ {members : List (Option String × Source)}
    {depth depth' : Nat} {before before' : List (String × Value)},
    (memberValues? depth members before).isSome → 0 < depth' →
    ((memberValues? depth' members before').isSome ↔ membersNesting members < depth')
  | [], _, _, _, _, _, hpos => by simpa [memberValues?, membersNesting] using hpos
  | (key, s) :: rest, depth, depth', before, before', h, hpos => by
    obtain ⟨k, v, rfl, hv, hrest⟩ := isSome_memberValues?_cons.1 h
    have hs : (s.value? depth').isSome ↔ s.nesting < depth' :=
      isSome_value?_iff (Option.isSome_of_eq_some hv) hpos
    -- the members before do not matter, so it is the same for whatever this one is read as
    have hothers : ∀ w, (memberValues? depth' rest (Keyed.put k w before')).isSome ↔
        membersNesting rest < depth' := fun _ => isSome_memberValues?_iff hrest hpos
    rw [isSome_memberValues?_cons, membersNesting, Nat.max_lt, ← hs, Option.isSome_iff_exists]
    simp [hothers]

end

mutual

/-- What can be read can be skipped. -/
theorem isSound_of_value? : ∀ {s : Source} {depth : Nat}, (s.value? depth).isSome → s.isSound
  | .null, _, _ | .bool _, _, _ | .number _, _, _ | .text _, _, _ => rfl
  | .unreadable, _, h | .broken, _, h | .array _ .broken, _, h
  | .object _ .broken, _, h => by simp [value?] at h
  | .array items .closed, _, h => by
    simpa [isSound] using itemsSound_of_itemValues? (isSome_value?_array.1 h).2
  | .object members .closed, _, h => by
    simpa [isSound] using membersSound_of_memberValues? (isSome_value?_object.1 h).2

theorem itemsSound_of_itemValues? : ∀ {items : List Source} {depth : Nat},
    (itemValues? depth items).isSome → itemsSound items
  | [], _, _ => rfl
  | s :: rest, depth, h => by
    obtain ⟨hs, hrest⟩ := isSome_itemValues?_cons.1 h
    simp [itemsSound, isSound_of_value? hs, itemsSound_of_itemValues? hrest]

theorem membersSound_of_memberValues? : ∀ {members : List (Option String × Source)}
    {depth : Nat} {before : List (String × Value)},
    (memberValues? depth members before).isSome → membersSound members
  | [], _, _, _ => rfl
  | (key, s) :: rest, depth, before, h => by
    obtain ⟨k, v, rfl, hv, hrest⟩ := isSome_memberValues?_cons.1 h
    simp [membersSound, isSound_of_value? (Option.isSome_of_eq_some hv),
      membersSound_of_memberValues? hrest]

end

end WorkerRoster.Json.Source
