import WorkerRoster.Proofs.Json.Members

/-!
# Reading a Second Time

Typed data can be read from a text at once, or from the value that the text was read as before. The
second way forgets how the text was written: the order of members and all but the last of those with
one key. Nothing is lost by it, since a reader that got through the text has found no known key
twice, and does not ask in which order the members come (`Json.Source.Slot.readGiven_of_filled`).

## Main statements

- `Json.Source.Rereads`: what is read from a text is read from its value, too
- `Json.Source.itemOr_itemSources`: the same of one item of an array
- `Json.Source.Slot.readGiven_of_filled`: the same of one slot of an object
-/

set_option autoImplicit false

namespace WorkerRoster.Json.Source

variable {α : Type} {depth : Nat}

/-- What is read from a text is read from its value, too. -/
def Rereads (read : Origin → Source → Reading α) : Prop :=
  ∀ (depth : Nat) (s : Source) (v : Value) (a : α), s.value? depth = some v →
    read .text s = .ok a → read .value v.toSource = .ok a

/-! ## Single values -/

theorem rereads_readText : Rereads fun _ => readText := by
  intro depth s v a hv hread
  cases s with
  | text t =>
    cases hv
    exact hread
  | null | bool _ | number _ | unreadable | array _ _ | object _ _ | broken => cases hread

theorem rereads_readCount : Rereads fun _ => readCount := by
  intro depth s v a hv hread
  cases s with
  | number n =>
    cases hv
    exact hread
  | null | bool _ | text _ | unreadable | array _ _ | object _ _ | broken => cases hread

theorem exists_of_value?_array {items : List Source} {ending : Ending} {v : Value}
    (h : (Source.array items ending).value? depth = some v) :
    ending = .closed ∧ ∃ vs, itemValues? (depth - 1) items = some vs ∧ v = .array vs := by
  cases ending with
  | broken => simp [value?] at h
  | closed =>
    rw [value?] at h
    split at h
    · cases h
    · obtain ⟨vs, hvs, rfl⟩ := Option.map_eq_some_iff.1 h
      exact ⟨rfl, vs, hvs, rfl⟩

theorem exists_of_value?_object {members : List (Option String × Source)} {ending : Ending}
    {v : Value} (h : (Source.object members ending).value? depth = some v) :
    ending = .closed ∧ ∃ vs, memberValues? (depth - 1) members [] = some vs ∧ v = .object vs ∧
      Keyed.Ascending vs := by
  have ordered := isOrdered_value? h
  cases ending with
  | broken => simp [value?] at h
  | closed =>
    rw [value?] at h
    split at h
    · cases h
    · obtain ⟨vs, hvs, rfl⟩ := Option.map_eq_some_iff.1 h
      exact ⟨rfl, vs, hvs, rfl, ordered.ascending⟩

/-- Only `null` has the value `null`. -/
theorem isNull_of_value? {s : Source} {v : Value} (h : s.value? depth = some v) (hs : s ≠ .null) :
    v.isNull = false := by
  cases s with
  | null => exact absurd rfl hs
  | bool _ | number _ | text _ =>
    cases h
    rfl
  | unreadable | broken => simp [value?] at h
  | array items ending =>
    obtain ⟨-, vs, -, rfl⟩ := exists_of_value?_array h
    rfl
  | object members ending =>
    obtain ⟨-, vs, -, rfl, -⟩ := exists_of_value?_object h
    rfl

theorem Rereads.readOptional {read : Origin → Source → Reading α} (again : Rereads read) :
    Rereads fun origin => readOptional (read origin) := by
  intro depth s v a hv hread
  change Source.readOptional (read .text) s = .ok a at hread
  by_cases hs : s = .null
  · subst hs
    cases hv
    exact hread
  · -- neither the tree nor its value is null
    have hplain : Source.readOptional (read .text) s = (read .text s).map some := by
      cases s with
      | null => exact absurd rfl hs
      | bool _ | number _ | text _ | unreadable | array _ _ | object _ _ | broken => rfl
    rw [hplain] at hread
    obtain ⟨b, hinner, rfl⟩ := Reading.of_map_eq_ok hread
    show Source.readOptional (read .value) v.toSource = _
    rw [readOptional_toSource (isNull_of_value? hv hs), again depth s v b hv hinner]
    rfl

/-- A choice that is written as an object has one key, and nothing in it. -/
theorem of_readChoice_object {choices : List (String × α)} {name : String} {content : Source}
    {rest : List (Option String × Source)} {ending : Ending} {a : α}
    (h : readChoice .text choices (.object ((some name, content) :: rest) ending) = .ok a) :
    named choices name = .ok a ∧ content = .null ∧ rest = [] := by
  simp only [readChoice, reduceCtorEq, false_and, if_false] at h
  cases hname : named choices name with
  | error fault => simp [hname] at h
  | ok b =>
    cases content with
    | null =>
      simp only [hname, readNothing] at h
      split at h
      · next hend =>
        cases h
        exact ⟨rfl, rfl, hend.1⟩
      · cases h
    | bool _ | number _ | text _ | unreadable | array _ _ | object _ _ | broken =>
      simp [hname, readNothing] at h

theorem rereads_readChoice (choices : List (String × α)) :
    Rereads fun origin => readChoice origin choices := by
  intro depth s v a hv hread
  cases s with
  | text name =>
    cases hv
    exact hread
  | null | bool _ | number _ | unreadable | array _ _ | broken => cases hread
  | object members ending =>
    match members with
    | [] => cases hread
    | (none, _) :: _ => cases hread
    | (some name, content) :: rest =>
      obtain ⟨rfl, vs, hvs, rfl, -⟩ := exists_of_value?_object hv
      -- with one key only, there is none that a value could have forgotten
      obtain ⟨hname, rfl, rfl⟩ := of_readChoice_object hread
      cases hvs
      show readChoice .value choices (.object [(some name, .null)] .closed) = .ok a
      simp [readChoice, hname, readNothing]

/-! ## Arrays -/

theorem itemOr_itemSources {read : Origin → Source → Reading α} (again : Rereads read)
    {otherwise : Reading α} {items rest : List Source} {vs : List Value} {a : α}
    (hvs : itemValues? depth items = some vs)
    (h : itemOr .closed (read .text) otherwise items = .ok (a, rest)) :
    ∃ ws, itemValues? depth rest = some ws ∧
      itemOr .closed (read .value) otherwise (itemSources vs) = .ok (a, itemSources ws) := by
  cases items with
  | nil =>
    cases hvs
    cases otherwise with
    | error fault => cases h
    | ok b =>
      cases h
      exact ⟨[], rfl, rfl⟩
  | cons s items =>
    rw [itemValues?] at hvs
    split at hvs
    · next v hv =>
      obtain ⟨ws, hws, rfl⟩ := Option.map_eq_some_iff.1 hvs
      have hitem : (read .text s).map (·, items) = .ok (a, rest) := h
      obtain ⟨b, hread, hb⟩ := Reading.of_map_eq_ok hitem
      cases hb
      refine ⟨ws, hws, ?_⟩
      show (read .value v.toSource).map (·, itemSources ws) = _
      rw [again depth s v a hv hread]
      rfl
    · cases hvs

/-- Behind the last item of a text, its value has none either. -/
theorem endItems_itemSources {total : Nat} {rest : List Source} {ws : List Value}
    (hws : itemValues? depth rest = some ws) (h : endItems .text total .closed rest = .ok ())
    (total' : Nat) : endItems .value total' .closed (itemSources ws) = .ok () := by
  cases rest with
  | nil =>
    cases hws
    rfl
  | cons s rest => cases h

/-! ## Objects -/

/-- A slot that was filled from a text is filled the same way from its value. -/
theorem Slot.readGiven_of_filled {σ : Type} {member : FieldReader σ} (f : Slot member α)
    {read : Origin → Source → Reading α} (again : Rereads read) (same : f.read = read .text)
    {members : List (Option String × Source)} {vs : List (String × Value)} {ending : Ending}
    {state state' : σ} (empty : f.get state = none)
    (hvs : memberValues? depth members [] = some vs)
    (h : readMembers member state ending members = .ok state') :
    readGiven (read .value) (vs.lookup f.key) = .ok (f.get state') := by
  -- reader and value agree on the member that counts
  have hfills := f.filled h
  have hlookup := lookup_memberValues? hvs f.key
  cases hlast : last? f.key members with
  | none =>
    rw [hlast] at hfills hlookup
    have hafter : f.get state' = none := hfills.trans empty
    rw [hlookup, hafter]
    rfl
  | some s =>
    rw [hlast] at hfills hlookup
    obtain ⟨-, a, hread, hafter⟩ := hfills
    obtain ⟨v, hv, hfound⟩ := hlookup
    rw [same] at hread
    rw [hfound, hafter, readGiven, again depth s v a hv hread]
    rfl

end WorkerRoster.Json.Source
