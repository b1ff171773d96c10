import Mathlib.Data.List.Nodup
import WorkerRoster.Proofs.Roster.Fate
import WorkerRoster.Site.Room

/-!
# A Roster as the Mirror of a Room

A room and a roster are kept apart from each other: the room knows its members, the roster what it
heard of them. Here is said in which sense the roster shows what is in the room, and that every
notice keeps it so. A member who shows no status is not seen in the mirror. It may still be known
there from before, so the roster is not determined by the room alone.

Member by member this is `Occupant.IsShownAs`. When the members are introduced one after the other
to a roster that knows nobody, it is determined by the room.

## Main statements

- `Roster.Reflects.heed`: a notice of what happened in a room keeps the mirror as it was
- `Roster.workers_introduce`: whom a roster knows when all members have been introduced
-/

set_option autoImplicit false

namespace WorkerRoster

/-! ## Members as workers -/

namespace Occupant

/-- The status that a member shows now. -/
def status? (o : Occupant) : Option Status :=
  o.presence.bind Presence.status?

/-- The worker that a member is, if it shows a status and does not count as gone. -/
def worker? (o : Occupant) : Option Worker :=
  (o.status?.filter (· ≠ .undefined)).map (Worker.mk o.id)

/-- Whether somebody in the room, or out of it, is known as it should be. -/
structure IsShownAs (o : Option Occupant) (known : Option Worker) : Prop where
  absent : o = none → known = none
  shown : ∀ member, o = some member → member.status? ≠ none → known = member.worker?

variable {o : Occupant}

theorem id_of_worker? {w : Worker} (h : o.worker? = some w) : w.id = o.id := by
  obtain ⟨status, -, rfl⟩ := Option.map_eq_some_iff.1 h
  rfl

theorem worker?_of_undefined (h : o.status? = some .undefined) : o.worker? = none := by
  simp [worker?, h]

theorem worker?_of_defined {status : Status} (h : o.status? = some status)
    (defined : status ≠ .undefined) : o.worker? = some ⟨o.id, status⟩ := by
  simp [worker?, h, Option.filter_some, defined]

theorem worker?_of_none (h : o.status? = none) : o.worker? = none := by
  simp [worker?, h]

end Occupant

/-! ## What happens in a room -/

namespace Room

/-- The member of an address. -/
def occupant? (r : Room) (id : WorkerId) : Option Occupant :=
  r.occupants.find? (·.id = id)

/-- Whether no member is there twice. -/
def IsDistinct (r : Room) : Prop :=
  (r.occupants.map (·.id)).Nodup

/-- One member comes, goes or shows something new, and a notice says what. -/
structure Happens (r r' : Room) (n : Notice) : Prop where
  rest : r' = { r with occupants := r'.occupants }
  distinct : r.IsDistinct → r'.IsDistinct
  others : ∀ id, id ≠ n.occupant.id → r'.occupant? id = r.occupant? id
  self : r.IsDistinct →
    r'.occupant? n.occupant.id = if n.kind.isDeparture then none else some n.occupant

variable (r : Room) (id : WorkerId)

theorem happens_arrive (presence : Option Presence) :
    r.Happens (r.arrive id presence).1 (r.arrive id presence).2 := by
  constructor
  case rest => rfl
  case distinct =>
    intro h
    show ((r.occupants.filter (·.id ≠ id) ++ [(⟨id, presence⟩ : Occupant)]).map (·.id)).Nodup
    rw [List.map_append, List.map_singleton]
    apply List.Nodup.append
    · exact h.sublist (List.filter_sublist.map _)
    · exact List.nodup_singleton id
    · -- whoever stays has another address
      simp
  case others =>
    intro other hother
    show (r.occupants.filter (·.id ≠ id) ++ [(⟨id, presence⟩ : Occupant)]).find? (·.id = other) = _
    have hne : id ≠ other := Ne.symm hother
    rw [List.find?_append, List.find?_filter]
    simp only [occupant?, List.find?_cons, hne, decide_false, List.find?_nil, Option.or_none]
    congr 1
    funext o
    by_cases ho : o.id = other
    · simp [ho, Ne.symm hne]
    · simp [ho]
  case self =>
    intro _
    show (r.occupants.filter (·.id ≠ id) ++ [(⟨id, presence⟩ : Occupant)]).find? (·.id = id) = _
    rw [List.find?_append, List.find?_eq_none.2 (by simp)]
    simp [arrive, NoticeKind.isDeparture]

section Replace

variable {o : Occupant}

theorem find?_replace_self (os : List Occupant) :
    (replace o os).find? (·.id = o.id) = some o := by
  induction os with
  | nil => simp [replace]
  | cons o' os ih =>
    by_cases h : o'.id = o.id
    · simp [replace, h]
    · simp [replace, h, ih]

theorem find?_replace_of_ne {other : WorkerId} (h : other ≠ o.id) (os : List Occupant) :
    (replace o os).find? (·.id = other) = os.find? (·.id = other) := by
  induction os with
  | nil => simp [replace, Ne.symm h]
  | cons o' os ih =>
    by_cases ho : o'.id = o.id
    · simp [replace, ho, Ne.symm h]
    · simp [replace, ho, List.find?_cons, ih]

theorem map_id_replace (os : List Occupant) :
    (replace o os).map (·.id) =
      if o.id ∈ os.map (·.id) then os.map (·.id) else os.map (·.id) ++ [o.id] := by
  induction os with
  | nil => simp [replace]
  | cons o' os ih =>
    by_cases h : o'.id = o.id
    · simp [replace, h]
    · have hne : ¬ o.id = o'.id := fun heq => h heq.symm
      simp only [replace, h, if_false, List.map_cons, ih, List.mem_cons, hne, false_or]
      split <;> rfl

end Replace

theorem happens_update (presence : Presence) :
    r.Happens (r.update id presence).1 (r.update id presence).2 := by
  constructor
  case rest => rfl
  case distinct =>
    intro h
    show ((replace ⟨id, some presence⟩ r.occupants).map (·.id)).Nodup
    rw [map_id_replace]
    split
    · exact h
    · next hid => exact List.nodup_append.2 ⟨h, List.nodup_singleton id, by grind⟩
  case others => exact fun other hother => find?_replace_of_ne hother r.occupants
  case self => exact fun _ => find?_replace_self r.occupants

/-- Whoever goes had the address, even if nothing was known of it. -/
theorem id_depart (kind : NoticeKind) : (r.depart id kind).2.occupant.id = id := by
  show ((r.occupants.find? (·.id = id)).getD ⟨id, none⟩).id = id
  cases hfound : r.occupants.find? (·.id = id) with
  | none => rfl
  | some o => simpa using List.find?_some hfound

theorem happens_depart {kind : NoticeKind} (hkind : kind.isDeparture) :
    r.Happens (r.depart id kind).1 (r.depart id kind).2 := by
  have hid := r.id_depart id kind
  constructor
  case rest => rfl
  case distinct => exact fun h => h.sublist (List.eraseP_sublist.map _)
  case others =>
    rw [hid]
    exact fun other hother => Keyed.find?_eraseP_of_ne hother r.occupants
  case self =>
    intro h
    rw [hid]
    show (r.occupants.eraseP (·.id = id)).find? (·.id = id) = if kind.isDeparture then none else _
    rw [if_pos hkind, Keyed.eraseP_eq_filter h, List.find?_eq_none]
    intro o ho
    simpa using (List.mem_filter.1 ho).2

end Room

/-! ## The mirror -/

namespace Roster

/-- What a notice does to a roster. -/
def heed (r : Roster) (n : Notice) : Roster :=
  match n.status? with
  | none => r
  | some status => (r.track n.occupant.id status).roster

/-- The roster when members have been introduced to it. -/
def introduce (r : Roster) (os : List Occupant) : Roster :=
  os.foldl (fun r o => r.heed ⟨.joined, o⟩) r

/-- Everybody in a room, or out of it, is known as it should be. -/
def Reflects (r : Roster) (room : Room) : Prop :=
  ∀ id, Occupant.IsShownAs (room.occupant? id) (r.find? id)

/-- What a mirror shows, said of the members and the workers one by one. -/
structure Mirrors (r : Roster) (room : Room) : Prop where
  there : ∀ w ∈ r.workers, ∃ o ∈ room.occupants, o.id = w.id
  shown : ∀ o ∈ room.occupants, ∀ status, o.status? = some status → status ≠ .undefined →
    r.find? o.id = some ⟨o.id, status⟩
  gone : ∀ o ∈ room.occupants, o.status? = some .undefined → r.contains o.id = false

variable {r : Roster} {n : Notice}

theorem IsDistinct.heed (h : r.IsDistinct) (n : Notice) : (r.heed n).IsDistinct := by
  unfold Roster.heed
  split
  · exact h
  · exact h.track _ _

theorem find?_heed_of_ne {id : WorkerId} (h : id ≠ n.occupant.id) :
    (r.heed n).find? id = r.find? id := by
  unfold heed
  split
  · rfl
  · exact find?_track_of_ne h r _

/-- Whoever is gone is forgotten, and whoever shows a status is known as the worker it is. -/
theorem find?_heed_self (h : r.IsDistinct) (tells : n.status? ≠ none) :
    (r.heed n).find? n.occupant.id = if n.kind.isDeparture then none else n.occupant.worker? := by
  obtain ⟨status, hstatus⟩ := Option.ne_none_iff_exists'.1 tells
  have hshown : ¬ n.kind.isDeparture = true → n.occupant.status? = some status := by
    intro hkind
    rwa [Notice.status?, if_neg hkind] at hstatus
  simp only [heed, hstatus, roster_track]
  split
  · next hdef =>
    subst hdef
    rw [find?_of_not_contains (contains_erase_self h _)]
    split
    · rfl
    · next hkind => exact (Occupant.worker?_of_undefined (hshown hkind)).symm
  · next hdef =>
    -- a departure tells of nothing but that the member counts as gone
    have hkind : ¬ n.kind.isDeparture = true := by
      intro hkind
      rw [Notice.status?, if_pos hkind] at hstatus
      exact hdef (Option.some.inj hstatus).symm
    rw [find?_put_self, if_neg hkind, Occupant.worker?_of_defined (hshown hkind) hdef]

/-- A notice of what happened in a room keeps the mirror as it was. -/
theorem Reflects.heed {room room' : Room} (h : r.Reflects room) (hr : r.IsDistinct)
    (hroom : room.IsDistinct) (happens : room.Happens room' n) :
    (r.heed n).Reflects room' := by
  intro id
  by_cases hid : id = n.occupant.id
  · subst hid
    rw [happens.self hroom]
    constructor
    case absent =>
      intro hnone
      have hkind : n.kind.isDeparture = true := by
        by_contra hkind
        simp [hkind] at hnone
      rw [find?_heed_self hr (by simp [Notice.status?, hkind]), if_pos hkind]
    case shown =>
      intro member hmember hstatus
      have hkind : ¬ n.kind.isDeparture = true := by
        intro hkind
        simp [hkind] at hmember
      rw [if_neg hkind, Option.some.injEq] at hmember
      subst hmember
      rw [find?_heed_self hr (by rwa [Notice.status?, if_neg hkind]), if_neg hkind]
  · rw [happens.others id hid, find?_heed_of_ne hid]
    exact h id

theorem Reflects.mirrors {room : Room} (h : r.Reflects room) (hroom : room.IsDistinct) :
    r.Mirrors room := by
  have hfound : ∀ o ∈ room.occupants, room.occupant? o.id = some o := fun o ho =>
    (Keyed.find?_eq_some_iff hroom).2 ⟨ho, rfl⟩
  constructor
  case there =>
    intro w hw
    by_contra hnone
    have habsent : room.occupant? w.id = none := by
      apply List.find?_eq_none.2
      intro o ho hid
      exact hnone ⟨o, ho, by simpa using hid⟩
    have hgone := (h w.id).absent habsent
    exact List.find?_eq_none.1 hgone w hw (decide_eq_true rfl)
  case shown =>
    intro o ho status hstatus defined
    rw [(h o.id).shown o (hfound o ho) (by simp [hstatus]),
      Occupant.worker?_of_defined hstatus defined]
  case gone =>
    intro o ho hstatus
    have hgone := (h o.id).shown o (hfound o ho) (by simp [hstatus])
    rw [Occupant.worker?_of_undefined hstatus] at hgone
    rw [← isSome_find?, hgone]
    rfl

/-! ## Introductions -/

theorem workers_heed_joined {o : Occupant} (h : r.find? o.id = none) :
    (r.heed ⟨.joined, o⟩).workers = r.workers ++ o.worker?.toList := by
  have hstatus : Notice.status? ⟨.joined, o⟩ = o.status? := rfl
  unfold heed
  rw [hstatus]
  cases hshows : o.status? with
  | none => simp [Occupant.worker?_of_none hshows]
  | some status =>
    simp only [roster_track]
    split
    · next hdef =>
      subst hdef
      rw [erase_of_not_contains, Occupant.worker?_of_undefined hshows]
      · simp
      · rw [← isSome_find?, h]
        rfl
    · next hdef => simp [put, h, Occupant.worker?_of_defined hshows hdef]

/-- Members who are introduced, none of them known before, come behind those who are. -/
theorem workers_introduce {os : List Occupant} (h : (os.map (·.id)).Nodup)
    (unknown : ∀ o ∈ os, r.find? o.id = none) :
    (r.introduce os).workers = r.workers ++ os.filterMap Occupant.worker? := by
  induction os generalizing r with
  | nil => simp [introduce]
  | cons o os ih =>
    have hheed := workers_heed_joined (unknown o List.mem_cons_self)
    have hunknown : ∀ o' ∈ os, (r.heed ⟨.joined, o⟩).find? o'.id = none := by
      intro o' ho'
      rw [find?_heed_of_ne (Keyed.key_ne_of_mem h ho')]
      exact unknown o' (List.mem_cons_of_mem o ho')
    show ((r.heed ⟨.joined, o⟩).introduce os).workers = _
    rw [ih h.of_cons hunknown, hheed, List.append_assoc]
    cases hw : o.worker? <;> simp [hw]

theorem IsDistinct.introduce (h : r.IsDistinct) (os : List Occupant) :
    (r.introduce os).IsDistinct := by
  induction os generalizing r with
  | nil => exact h
  | cons o os ih => exact ih (h.heed ⟨.joined, o⟩)

theorem find?_filterMap_worker? {os : List Occupant} (h : (os.map (·.id)).Nodup) (id : WorkerId) :
    (os.filterMap Occupant.worker?).find? (·.id = id) =
      (os.find? (·.id = id)).bind Occupant.worker? := by
  induction os with
  | nil => rfl
  | cons o os ih =>
    by_cases ho : o.id = id
    · -- nobody else has this address, so nobody is taken for this member
      have hothers : (os.filterMap Occupant.worker?).find? (·.id = id) = none := by
        apply List.find?_eq_none.2
        intro w hw
        obtain ⟨o', ho', hworker⟩ := List.mem_filterMap.1 hw
        rw [Occupant.id_of_worker? hworker, ← ho]
        simpa using Keyed.key_ne_of_mem h ho'
      rw [List.find?_cons_of_pos (by simpa using ho)]
      cases hw : o.worker? with
      | none => simpa [hw] using hothers
      | some w => simp [hw, Occupant.id_of_worker? hw, ho]
    · rw [List.find?_cons_of_neg (by simpa using ho)]
      cases hw : o.worker? with
      | none => simpa [hw] using ih h.of_cons
      | some w =>
        have hne : w.id ≠ id := by rwa [Occupant.id_of_worker? hw]
        simpa [hw, hne] using ih h.of_cons

/-- A roster that knows just the workers among the members is a mirror of the room. -/
theorem reflects_of_workers {room : Room} (h : room.IsDistinct)
    (workers : r.workers = room.occupants.filterMap Occupant.worker?) : r.Reflects room := by
  intro id
  have hfind : r.find? id = (room.occupant? id).bind Occupant.worker? := by
    unfold find?
    rw [workers]
    exact find?_filterMap_worker? h id
  rw [hfind]
  constructor
  case absent =>
    intro hnone
    rw [hnone]
    rfl
  case shown =>
    intro member hmember _
    rw [hmember]
    rfl

end Roster

end WorkerRoster
