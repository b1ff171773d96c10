import WorkerRoster.Json.Decode
import WorkerRoster.Proofs.Json.Overlay

/-!
# Reading an Object Key by Key

A reader of an object goes through the members as they stand, whatever comes first. Here it is shown
what that has to do with the keys. An object in key order is read as if each known key were looked
up, one after the other (`Json.Source.readMembers_memberSources`), so members of other keys do not
matter. And of a text with its members in any order, if it can be read at all, each slot of the
record has what is read from the last member of its key (`Json.Source.Slot.filled`), which is the
one that counts in a value, too.

## Main statements

- `Json.Source.readMembers_memberSources`: an object in key order is read key by key
- `Json.Source.Slot.filled`: what a slot holds when members have been read in any order
-/

set_option autoImplicit false

namespace WorkerRoster.Json

-- A value may hold arrays and objects at any depth, so the three are proved together.
mutual

theorem Value.isSound_toSource : ∀ v : Value, v.toSource.isSound = true
  | .null | .bool _ | .number _ | .text _ => rfl
  | .array items => by
    have hitems := itemsSound_itemSources items
    simp [Value.toSource, Source.isSound, hitems]
  | .object members => by
    have hmembers := membersSound_memberSources members
    simp [Value.toSource, Source.isSound, hmembers]

theorem itemsSound_itemSources : ∀ vs : List Value, Source.itemsSound (itemSources vs) = true
  | [] => rfl
  | v :: rest => by
    simp [itemSources, Source.itemsSound, v.isSound_toSource, itemsSound_itemSources rest]

theorem membersSound_memberSources :
    ∀ members : List (String × Value), Source.membersSound (memberSources members) = true
  | [] => rfl
  | (_, v) :: rest => by
    simp [memberSources, Source.membersSound, v.isSound_toSource, membersSound_memberSources rest]

end

theorem Reading.map_bind {α β γ : Type} (x : Reading α) (f : α → β) (g : β → Reading γ) :
    Except.map f x >>= g = x >>= fun a => g (f a) := by
  cases x <;> rfl

theorem Reading.of_bind_eq_ok {α β : Type} {x : Reading α} {f : α → Reading β} {b : β}
    (h : x >>= f = .ok b) : ∃ a, x = .ok a ∧ f a = .ok b := by
  cases x with
  | error fault => cases h
  | ok a => exact ⟨a, rfl, h⟩

theorem Reading.of_map_eq_ok {α β : Type} {x : Reading α} {f : α → β} {b : β}
    (h : x.map f = .ok b) : ∃ a, x = .ok a ∧ f a = b := by
  cases x with
  | error fault => cases h
  | ok a =>
    cases h
    exact ⟨a, rfl, rfl⟩

namespace Source

variable {σ α : Type} {member : FieldReader σ}

/-! ## Values in key order -/

/-- Read the member of a key, if there is one and it is of use. -/
def readKey (member : FieldReader σ) (members : List (String × Value)) (state : σ) (key : String) :
    Reading σ :=
  ((members.lookup key).bind fun v => member state key v.toSource).getD (.ok state)

/-- Read the members of some keys, one after the other. -/
def readKeys (member : FieldReader σ) (keys : List String) (members : List (String × Value))
    (state : σ) : Reading σ :=
  keys.foldlM (readKey member members) state

section Keys

variable {keys : List String} {members members' : List (String × Value)} {state : σ}

theorem readKeys_of_absent (h : ∀ key ∈ keys, members.lookup key = none) :
    readKeys member keys members state = .ok state := by
  induction keys with
  | nil => rfl
  | cons key keys ih =>
    have hkey : readKey member members state key = .ok state := by
      simp [readKey, h key List.mem_cons_self]
    unfold readKeys
    rw [List.foldlM_cons, hkey]
    exact ih fun k hk => h k (List.mem_cons_of_mem key hk)

theorem readKeys_congr (h : ∀ key ∈ keys, members.lookup key = members'.lookup key) :
    readKeys member keys members state = readKeys member keys members' state := by
  induction keys generalizing state with
  | nil => rfl
  | cons key keys ih =>
    have hkey : readKey member members state key = readKey member members' state key := by
      simp [readKey, h key List.mem_cons_self]
    unfold readKeys
    rw [List.foldlM_cons, List.foldlM_cons, hkey]
    apply bind_congr
    intro state'
    exact ih fun k hk => h k (List.mem_cons_of_mem key hk)

theorem readKeys_append (front back : List String) :
    readKeys member (front ++ back) members state =
      readKeys member front members state >>= readKeys member back members :=
  List.foldlM_append

/-- An object in key order is read as if the known keys were looked up one after the other. -/
theorem readMembers_memberSources (ordered : keys.Pairwise (· < ·))
    (others : ∀ state key s, key ∉ keys → member state key s = none)
    (ascending : Keyed.Ascending members) :
    readMembers member state .closed (memberSources members) =
      readKeys member keys members state := by
  induction members generalizing state with
  | nil =>
    rw [readKeys_of_absent fun _ _ => rfl]
    rfl
  | cons m rest ih =>
    obtain ⟨k, v⟩ := m
    -- keys that are not this member's do not find it
    have hbelow := (List.pairwise_cons.1 ascending).1
    have hskip : ∀ front : List String, (∀ key ∈ front, key ≠ k) → ∀ state,
        readKeys member front ((k, v) :: rest) state = readKeys member front rest state := by
      intro front hfront state
      apply readKeys_congr
      intro key hkey
      rw [Keyed.lookup_cons_eq_ite, if_neg (hfront key hkey)]
    by_cases hk : k ∈ keys
    · -- the keys before this one find nothing, neither here nor in the rest
      obtain ⟨before, after, rfl⟩ := List.append_of_mem hk
      obtain ⟨-, hafter, hbefore⟩ := List.pairwise_append.1 ordered
      have hnone : ∀ state, readKeys member before rest state = .ok state := by
        intro state
        apply readKeys_of_absent
        intro key hkey
        apply Keyed.lookup_eq_none_of_lt
        intro m hm
        exact String.lt_trans (hbefore key hkey k List.mem_cons_self) (hbelow m hm)
      have hfront : ∀ key ∈ before, key ≠ k := fun key hkey =>
        Std.ne_of_lt (hbefore key hkey k List.mem_cons_self)
      have hback : ∀ key ∈ after, key ≠ k := fun key hkey =>
        (Std.ne_of_lt ((List.pairwise_cons.1 hafter).1 key hkey)).symm
      -- in the rest there is no member of this key, so the keys behind it go on as before
      have hrest : ∀ state, readKeys member (before ++ k :: after) rest state =
          readKeys member after rest state := by
        intro state
        have hhere : readKey member rest state k = .ok state := by
          simp [readKey, ascending.lookup_head]
        rw [readKeys_append, hnone]
        show readKey member rest state k >>= readKeys member after rest = _
        rw [hhere]
        rfl
      -- this key finds the member, and then the keys behind it find theirs
      have hhere : readKeys member (before ++ k :: after) ((k, v) :: rest) state =
          (member state k v.toSource).getD (.ok state) >>= readKeys member after rest := by
        rw [readKeys_append, hskip before hfront, hnone]
        show readKey member ((k, v) :: rest) state k >>= readKeys member after ((k, v) :: rest) = _
        have hkey : readKey member ((k, v) :: rest) state k =
            (member state k v.toSource).getD (.ok state) := by
          simp [readKey]
        rw [hkey]
        apply bind_congr
        exact hskip after hback
      rw [hhere]
      unfold memberSources readMembers
      cases hmember : member state k v.toSource with
      | none =>
        simp only [v.isSound_toSource, if_true, ih ascending.tail, hrest]
        rfl
      | some outcome =>
        cases outcome with
        | ok state' =>
          simp only [ih ascending.tail, hrest]
          rfl
        | error fault => rfl
    · -- a member that is not known is skipped
      unfold memberSources readMembers
      have hne : ∀ key ∈ keys, key ≠ k := by
        rintro key hkey rfl
        exact hk hkey
      simp only [others state k v.toSource hk, v.isSound_toSource, if_true, ih ascending.tail]
      exact (hskip keys hne state).symm

end Keys

/-! ## Members in any order -/

/-- Members that a reader has no use for are left out of account, if they can be skipped. -/
theorem readMembers_filter {known : Option String × Source → Bool}
    {members : List (Option String × Source)}
    (others : ∀ m ∈ members, known m = false →
      m.2.isSound ∧ ∃ key, m.1 = some key ∧ ∀ state, member state key m.2 = none)
    (state : σ) (ending : Ending) :
    readMembers member state ending members =
      readMembers member state ending (members.filter known) := by
  induction members generalizing state with
  | nil => rfl
  | cons m rest ih =>
    have hrest := ih fun n hn => others n (List.mem_cons_of_mem _ hn)
    obtain ⟨name, s⟩ := m
    cases hknown : known (name, s) with
    | true =>
      rw [List.filter_cons_of_pos hknown]
      cases name with
      | none => rfl
      | some key => simp only [readMembers, hrest]
    | false =>
      obtain ⟨hsound, key, rfl, hmember⟩ := others _ List.mem_cons_self hknown
      rw [List.filter_cons_of_neg (by simp [hknown])]
      simp [readMembers, hmember, hsound, hrest]

/-- The last member of a key. -/
def last? (key : String) : List (Option String × Source) → Option Source
  | [] => none
  | (k, s) :: rest => (last? key rest).or (if k = some key then some s else none)

/-- In a value it is the last member of a key that counts. -/
theorem lookup_memberValues? {depth : Nat} {members : List (Option String × Source)}
    {before vs : List (String × Value)} (h : memberValues? depth members before = some vs)
    (key : String) :
    match last? key members with
    | none => vs.lookup key = before.lookup key
    | some s => ∃ v, s.value? depth = some v ∧ vs.lookup key = some v := by
  induction members generalizing before with
  | nil =>
    cases h
    rfl
  | cons m rest ih =>
    obtain ⟨k, s⟩ := m
    cases k with
    | none => cases h
    | some k =>
      rw [memberValues?] at h
      split at h
      · next v hv =>
        have hrest := ih h
        unfold last?
        cases hlast : last? key rest with
        | some s' =>
          rw [hlast] at hrest
          exact hrest
        | none =>
          rw [hlast] at hrest
          -- no later member has the key, so it is this one or one before
          by_cases hk : key = k
          · subst hk
            rw [Keyed.lookup_put_self] at hrest
            simpa using ⟨v, hv, hrest⟩
          · rw [Keyed.lookup_put_of_ne hk] at hrest
            have hne : ¬ k = key := fun heq => hk heq.symm
            simpa [hne] using hrest
      · cases h

/-- A slot of a record that is read member by member. Only the members of its own key go into it,
    and only while it is empty. -/
structure Slot {σ : Type} (member : FieldReader σ) (α : Type) where
  key : String
  read : Source → Reading α
  get : σ → Option α
  set : σ → Option α → σ
  own : ∀ state s, member state key s = some ((fill key (get state) read s).map (set state))
  get_set : ∀ state a, get (set state a) = a
  others : ∀ state state' k s, k ≠ key → member state k s = some (.ok state') →
    get state' = get state

/-- What a slot holds after reading, and what it must have held before, where `last` is the last
    member of its key. -/
def Slot.Fills {α : Type} (f : Slot member α) (last : Option Source) (before after : Option α) :
    Prop :=
  match last with
  | none => after = before
  | some s => before = none ∧ ∃ a, f.read s = .ok a ∧ after = some a

theorem Slot.of_own {f : Slot member α} {state state' : σ} {s : Source}
    (h : member state f.key s = some (.ok state')) :
    f.Fills (some s) (f.get state) (f.get state') := by
  rw [f.own] at h
  cases hslot : f.get state with
  | some a => simp [fill, hslot, Except.map] at h
  | none =>
    cases hread : f.read s with
    | error fault => simp [fill, hslot, hread, Except.map] at h
    | ok a =>
      simp only [fill, hslot, hread, Except.map, Option.some.injEq, Except.ok.injEq] at h
      rw [← h, f.get_set]
      exact ⟨rfl, a, hread, rfl⟩

/-- What a slot holds when members have been read in any order: what is read from the last member
    of its key. -/
theorem Slot.filled (f : Slot member α) {members : List (Option String × Source)}
    {ending : Ending} {state state' : σ}
    (h : readMembers member state ending members = .ok state') :
    f.Fills (last? f.key members) (f.get state) (f.get state') := by
  induction members generalizing state with
  | nil =>
    unfold readMembers at h
    split at h
    · cases h
      rfl
    · cases h
  | cons m rest ih =>
    obtain ⟨k, s⟩ := m
    cases k with
    | none => cases h
    | some k =>
      unfold readMembers at h
      unfold last?
      by_cases hk : k = f.key
      · subst hk
        split at h
        · next state₁ hmember =>
          obtain ⟨hempty, a, hread, hfull⟩ := Slot.of_own hmember
          have hrest := ih h
          rw [hfull] at hrest
          cases hlast : last? f.key rest with
          | some s' =>
            -- the slot is full already, so there is no other member of its key
            rw [hlast] at hrest
            exact absurd hrest.1 (by simp)
          | none =>
            rw [hlast] at hrest
            rw [if_pos rfl, Option.none_or]
            exact ⟨hempty, a, hread, hrest⟩
        · cases h
        · next hmember =>
          rw [f.own] at hmember
          cases hmember
      · have hlast : (last? f.key rest).or (if some k = some f.key then some s else none) =
            last? f.key rest := by
          simp [hk]
        rw [hlast]
        split at h
        · next state₁ hmember =>
          rw [← f.others state state₁ k s hk hmember]
          exact ih h
        · cases h
        · split at h
          · exact ih h
          · cases h

/-! ## Slots and values -/

/-- Read the member of a value, if it is there. -/
def readGiven {α : Type} (read : Source → Reading α) : Option Value → Reading (Option α)
  | none => .ok none
  | some v => (read v.toSource).map some

theorem readOptional_toSource {read : Source → Reading α} {v : Value} (h : v.isNull = false) :
    readOptional read v.toSource = (read v.toSource).map some := by
  cases v with
  | null => cases h
  | bool _ | number _ | text _ | array _ | object _ => rfl

/-- An empty slot is filled from the member of its key, or stays empty. -/
theorem Slot.readKey_eq (f : Slot member α) {state : σ} (empty : f.get state = none)
    (same : f.set state none = state) (members : List (String × Value)) :
    readKey member members state f.key =
      (readGiven f.read (members.lookup f.key)).map (f.set state) := by
  unfold readKey
  cases members.lookup f.key with
  | none => simp [readGiven, Except.map, same]
  | some v =>
    rw [Option.bind_some, f.own, empty]
    rfl

/-- What goes into one slot is nothing to the others. -/
theorem keeps_of_map {β : Type} {get : σ → Option α} {outcome : Reading β} {set : β → σ}
    {state state' : σ} (h : some (outcome.map set) = some (.ok state'))
    (keeps : ∀ b, get (set b) = get state) : get state' = get state := by
  cases outcome with
  | error fault => cases h
  | ok b =>
    cases h
    exact keeps b

end Source

end WorkerRoster.Json
