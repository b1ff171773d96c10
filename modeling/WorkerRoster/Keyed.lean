/-!
# Members with Keys

Lists in which each key is there once. Where members are written with their keys, the keys ascend,
and setting a member keeps both. Where the key is a part of the member, the order is free; looking
for a key then finds the member that has it.
-/

set_option autoImplicit false

namespace WorkerRoster.Keyed

/-- Set a member, in place if its key is there already. -/
def put {α : Type} (key : String) (a : α) : List (String × α) → List (String × α)
  | [] => [(key, a)]
  | (k, b) :: rest =>
    if key = k then (key, a) :: rest
    else if key < k then (key, a) :: (k, b) :: rest
    else (k, b) :: put key a rest

/-- The keys of the members ascend, so none is there twice. -/
def Ascending {α : Type} (members : List (String × α)) : Prop :=
  members.Pairwise fun a b => a.1 < b.1

instance {α : Type} (members : List (String × α)) : Decidable (Ascending members) :=
  inferInstanceAs (Decidable (members.Pairwise fun a b => a.1 < b.1))

variable {α : Type}

/-! ## Looking up -/

/-- The first member of a key is the one that is found. -/
theorem lookup_cons_eq_ite (key k : String) (a : α) (rest : List (String × α)) :
    ((k, a) :: rest).lookup key = if key = k then some a else rest.lookup key := by
  by_cases h : key = k
  · simp [h]
  · have hne : (key == k) = false := by simpa using h
    simp [List.lookup_cons, h, hne]

/-- A member that was set is found. -/
@[simp] theorem lookup_put_self (key : String) (a : α) (members : List (String × α)) :
    (put key a members).lookup key = some a := by
  induction members with
  | nil => simp [put]
  | cons m rest ih =>
    obtain ⟨k, b⟩ := m
    by_cases hk : key = k
    · simp [put, hk]
    · by_cases hlt : key < k <;> simp [put, hk, hlt, lookup_cons_eq_ite, ih]

/-- Setting a member changes no other. -/
theorem lookup_put_of_ne {key other : String} (h : other ≠ key) (a : α)
    (members : List (String × α)) : (put key a members).lookup other = members.lookup other := by
  induction members with
  | nil => simp [put, lookup_cons_eq_ite, h]
  | cons m rest ih =>
    obtain ⟨k, b⟩ := m
    by_cases hk : key = k
    · subst hk
      simp [put, lookup_cons_eq_ite, h]
    · by_cases hlt : key < k <;> simp [put, hk, hlt, lookup_cons_eq_ite, h, ih]

/-! ## Order -/

/-- The members after setting one: that one, and those of other keys. -/
theorem mem_of_mem_put {key : String} {a : α} {members : List (String × α)} {m : String × α}
    (h : m ∈ put key a members) : m = (key, a) ∨ m ∈ members := by
  induction members with
  | nil => simpa [put] using h
  | cons n rest ih =>
    obtain ⟨k, b⟩ := n
    by_cases hk : key = k
    · grind [put]
    · by_cases hlt : key < k <;> grind [put]

/-- Setting a member keeps the keys ascending. -/
theorem ascending_put (key : String) (a : α) {members : List (String × α)}
    (h : Ascending members) : Ascending (put key a members) := by
  induction members with
  | nil => simp [put, Ascending]
  | cons m rest ih =>
    obtain ⟨k, b⟩ := m
    obtain ⟨below, ascending⟩ := List.pairwise_cons.1 h
    by_cases hk : key = k
    · subst hk
      simpa [put, Ascending] using h
    · by_cases hlt : key < k
      · simp only [put, if_neg hk, if_pos hlt]
        refine List.pairwise_cons.2 ⟨fun n hn => ?_, h⟩
        rcases List.mem_cons.1 hn with rfl | hn
        · exact hlt
        · exact String.lt_trans hlt (below n hn)
      · simp only [put, if_neg hk, if_neg hlt]
        refine List.pairwise_cons.2 ⟨fun n hn => ?_, ih ascending⟩
        rcases mem_of_mem_put hn with rfl | hn
        · exact Std.lt_of_le_of_ne (String.not_lt.1 hlt) (Ne.symm hk)
        · exact below n hn

/-- A member of a key behind all others is added at the end. -/
theorem put_of_forall_lt {key : String} {members : List (String × α)}
    (h : ∀ m ∈ members, m.1 < key) (a : α) : put key a members = members ++ [(key, a)] := by
  induction members with
  | nil => simp [put]
  | cons m rest ih =>
    obtain ⟨k, b⟩ := m
    have hlt : k < key := h (k, b) List.mem_cons_self
    have hrest := ih fun n hn => h n (List.mem_cons_of_mem _ hn)
    have hne : key ≠ k := (Std.ne_of_lt hlt).symm
    have hnot : ¬ key < k := Std.not_lt.2 (Std.le_of_lt hlt)
    simp [put, hne, hnot, hrest]

/-! ## Each key once -/

section Distinct

variable {κ : Type} {key : α → κ} {m n : α} {members : List α}

/-- Whoever comes behind one has another key. -/
theorem key_ne_of_mem (h : ((m :: members).map key).Nodup) (hn : n ∈ members) : key n ≠ key m := by
  intro heq
  apply (List.nodup_cons.1 h).1
  show key m ∈ members.map key
  rw [← heq]
  exact List.mem_map_of_mem hn

variable [DecidableEq κ]

/-- The members of a key are the one that is found, if there is one. -/
theorem filter_eq_toList_find? (h : (members.map key).Nodup) (k : κ) :
    members.filter (key · = k) = (members.find? (key · = k)).toList := by
  induction members with
  | nil => rfl
  | cons m rest ih =>
    by_cases hm : key m = k
    · have hothers : rest.filter (key · = k) = [] := by
        rw [List.filter_eq_nil_iff]
        intro n hn
        simpa [← hm] using key_ne_of_mem h hn
      simp [hm, hothers]
    · simp [hm, ih h.of_cons]

/-- Every member is found by its key. -/
theorem find?_eq_some_iff (h : (members.map key).Nodup) {k : κ} :
    members.find? (key · = k) = some m ↔ m ∈ members ∧ key m = k := by
  rw [← Option.mem_toList, ← filter_eq_toList_find? h, List.mem_filter, decide_eq_true_iff]

/-- Members of other keys are found as before when one is removed. -/
theorem find?_eraseP_of_ne {k other : κ} (hne : other ≠ k) (members : List α) :
    (members.eraseP (key · = k)).find? (key · = other) = members.find? (key · = other) := by
  induction members with
  | nil => rfl
  | cons m rest ih =>
    by_cases hm : key m = k
    · simp [hm, Ne.symm hne]
    · simp [hm, List.find?_cons, ih]

/-- Removing the first member of a key leaves those of other keys. -/
theorem eraseP_eq_filter (h : (members.map key).Nodup) (k : κ) :
    members.eraseP (key · = k) = members.filter (key · ≠ k) := by
  induction members with
  | nil => rfl
  | cons m rest ih =>
    by_cases hm : key m = k
    · have hothers : rest.filter (key · ≠ k) = rest := by
        rw [List.filter_eq_self]
        intro n hn
        simpa [← hm] using key_ne_of_mem h hn
      rw [List.eraseP_cons_of_pos (by simpa using hm), List.filter_cons_of_neg (by simpa using hm),
        hothers]
    · rw [List.eraseP_cons_of_neg (by simpa using hm), List.filter_cons_of_pos (by simpa using hm),
        ih h.of_cons]

end Distinct

end WorkerRoster.Keyed
