import Mathlib.Data.List.Nodup
import WorkerRoster.Proofs.Site.Hearsay

/-!
# Rooms Stay in Order

Whatever is done to the rooms of a site, by whomever and at whatever moment, also by a listener that
is told of something else just then, a room stays in order: nobody is in it twice, it has been
entered as often as it has been left, and once more while somebody is in it, and its listeners can
be told apart. Whoever is refused entry leaves no trace in the room but that the refusal is used up.

## Main statements

- `Room.keeps_isCounted`: entries and exits balance
- `Room.keeps_isNumbered`: the numbers of the listeners are different, and were all given out
- `Site.rooms_of_refused`: what a refused attempt to enter changes
- `Site.Reachable.rooms_in_order`: all rooms are in order at any time
-/

set_option autoImplicit false

namespace WorkerRoster

/-! ## One room -/

namespace Room

/-- Whether a room has been left each time it was entered, but for the time it is entered now. -/
def IsCounted (r : Room) : Prop :=
  r.entries = r.exits + if r.isEntered then 1 else 0

/-- Whether the listeners of a room have different numbers, all from before the next one. -/
structure IsNumbered (next : ListenerId) (r : Room) : Prop where
  nodup : (r.listeners.map (·.1)).Nodup
  below : ∀ x ∈ r.listeners, x.1.number < next.number

theorem keeps_isCounted : Keeps fun _ => IsCounted where
  new _ _ := rfl
  later h := h
  arrive _ _ h := h
  update _ _ h := h
  depart _ _ h := h
  enter {_ r} h := by
    unfold enter
    split
    · exact h
    · split
      · exact h
      · next hclosed =>
        -- the entry that is counted is the one that is not over
        rw [IsCounted, if_neg hclosed] at h
        exact congrArg (· + 1) h
  leave {_ r} h := by
    unfold leave
    split
    · next hopen =>
      rw [IsCounted, if_pos hopen] at h
      exact h
    · exact h
  listen _ h := h
  unlisten _ h := h
  refuse _ h := h

theorem keeps_isNumbered : Keeps IsNumbered where
  new _ _ := ⟨List.nodup_nil, nofun⟩
  later h := ⟨h.nodup, fun x hx => Nat.lt_succ_of_lt (h.below x hx)⟩
  arrive _ _ h := ⟨h.nodup, h.below⟩
  update _ _ h := ⟨h.nodup, h.below⟩
  depart _ _ h := ⟨h.nodup, h.below⟩
  enter {_ r} h := by
    refine ⟨?_, ?_⟩ <;> rw [listeners_enter]
    · exact h.nodup
    · exact h.below
  leave {_ r} h := by
    refine ⟨?_, ?_⟩ <;> rw [listeners_leave]
    · exact h.nodup
    · exact h.below
  listen {next r} l h := by
    constructor
    · -- the next number is not among those from before it
      have hnew : next ∉ r.listeners.map (·.1) := by
        intro hmem
        obtain ⟨x, hx, rfl⟩ := List.mem_map.1 hmem
        exact Nat.lt_irrefl _ (h.below x hx)
      have hconcat := h.nodup.concat hnew
      rw [List.concat_eq_append] at hconcat
      rwa [listen, List.map_append]
    · intro x hx
      rcases List.mem_append.1 hx with hx | hx
      · exact Nat.lt_succ_of_lt (h.below x hx)
      · rw [List.mem_singleton.1 hx]
        exact Nat.lt_succ_self _
  unlisten _ h :=
    ⟨h.nodup.sublist (List.filter_sublist.map _), fun x hx => h.below x (List.mem_of_mem_filter hx)⟩
  refuse _ h := ⟨h.nodup, h.below⟩

/-- Different numbers are different as words as long as words go that far. -/
theorem IsNumbered.nodup_words {next : ListenerId} {r : Room} (h : r.IsNumbered next)
    (hnext : next.number ≤ UInt64.size) : (r.listeners.map (·.1.number.toUInt64)).Nodup := by
  have hwords : r.listeners.map (·.1.number.toUInt64) =
      (r.listeners.map (·.1)).map (·.number.toUInt64) := by
    rw [List.map_map]
    rfl
  have hfits : ∀ id ∈ r.listeners.map (·.1), id.number.toUInt64.toNat = id.number := by
    intro id hid
    obtain ⟨x, hx, rfl⟩ := List.mem_map.1 hid
    exact UInt64.toNat_ofNat_of_lt' (Nat.lt_of_lt_of_le (h.below x hx) hnext)
  rw [hwords]
  refine h.nodup.map_on fun id hid other hother heq => ?_
  -- a word that a number fits gives the number back
  have hnumber := congrArg UInt64.toNat heq
  rw [hfits id hid, hfits other hother] at hnumber
  cases id
  cases other
  cases hnumber
  rfl

/-- Who is refused entry has used up the refusal, and nothing else has changed. -/
theorem enter_of_refused {r : Room} {refusal : Refusal} (h : r.enter.2 = .error refusal) :
    r.enter = ({ r with nextRefusal := none }, .error refusal) := by
  unfold enter at *
  split at h
  · next hrefusal =>
    cases h
    rfl
  · split at h <;> cases h

end Room

/-! ## All rooms -/

namespace Site

variable {s : Site} {room : RoomRef} {r : Room} {refusal : Refusal} {m : Move}

/-- The room that a move tries to enter. -/
def entering? (s : Site) : Move → Option RoomRef
  | .enter room => some room
  | .work =>
    match s.stack with
    | .asking _ (.entering _ seat) :: _ => some seat.room
    | _ => none
  | _ => none

/-- An attempt to enter a room that is refused uses up the refusal, and changes nothing else in any
    room. -/
theorem rooms_of_refused (hm : s.entering? m = some room) (hr : s.rooms[room.index]? = some r)
    (h : r.enter.2 = .error refusal) :
    (s.move m).rooms = s.rooms.set room.index { r with nextRefusal := none } := by
  have henter := Room.enter_of_refused h
  cases m with
  | enter other =>
    obtain rfl : other = room := Option.some.inj hm
    simp only [move, enterRoom, hr, henter]
    rw [changeRoom, List.set_eq_modify]
  | work =>
    unfold entering? at hm
    dsimp only at hm
    split at hm
    · next index generation seat rest hstack =>
      -- a monitor asks to be let in, and goes on with the refusal
      obtain rfl : seat.room = room := Option.some.inj hm
      simp only [move, step, hstack, answer, hr, henter]
      rw [(parts_resume _ _ _ _).1, changeRoom, List.set_eq_modify]
    · cases hm
  | _ => cases hm

/-- Whatever happens at a site, and whatever is under way, its rooms are in order: nobody has an
    address twice, entries are one more than exits while a room is entered and as many as exits
    while it is not, and no two listeners have a number in common, not even as words as long as
    fewer than 2^64 numbers have been given out. An attempt to enter that is refused leaves every
    room as it is, but for the refusal. -/
theorem Reachable.rooms_in_order (h : s.Reachable) :
    (∀ r ∈ s.rooms,
      (r.occupants.map (·.id)).Nodup ∧
      (r.entries = r.exits + if r.isEntered then 1 else 0) ∧
      (r.listeners.map (·.1)).Nodup ∧
      (s.nextListener.number ≤ UInt64.size → (r.listeners.map (·.1.number.toUInt64)).Nodup)) ∧
    ∀ m room r refusal, s.entering? m = some room → s.rooms[room.index]? = some r →
      r.enter.2 = .error refusal →
      (s.move m).rooms = s.rooms.set room.index { r with nextRefusal := none } := by
  refine ⟨fun r hr => ?_, fun m room r refusal hm hr hrefused => rooms_of_refused hm hr hrefused⟩
  have hdistinct := h.isDistinct r hr
  have hcounted := h.keeps_rooms Room.keeps_isCounted r hr
  have hnumbered := h.keeps_rooms Room.keeps_isNumbered r hr
  exact ⟨hdistinct, hcounted, hnumbered.nodup, hnumbered.nodup_words⟩

/-- A site where a worker is being introduced to the first of two listeners, who has had the room
    left, and somebody else listen in it, and has the next attempt to enter it refused. -/
def interrupted : Site :=
  after { connection := { isUp := false } } [.provideRoom "brewery", .listenToRoom ⟨0⟩ 0,
    .listenToRoom ⟨0⟩ 1, .arrive ⟨0⟩ ⟨"w"⟩ (some (.announcing .idle)), .work, .enter ⟨0⟩, .work,
    .work, .leave ⟨0⟩, .listenToRoom ⟨0⟩ 2, .refuseNextEntry ⟨0⟩ .notConnected]

/-- The room is in order while this is under way, and stays as it is when nobody is let in. -/
theorem Reachable.rooms_in_order_interrupted :
    interrupted.Reachable ∧ interrupted.stack.length = 3 ∧
      ∃ r, interrupted.rooms = [r] ∧ r.enter.2 = .error .notConnected ∧
        (r.entries = r.exits + if r.isEntered then 1 else 0) ∧
        (r.listeners.map (·.1.number.toUInt64)).Nodup ∧
        (interrupted.move (.enter ⟨0⟩)).rooms = [{ r with nextRefusal := none }] := by
  have hreachable : interrupted.Reachable := (Reachable.start false []).after _
  obtain ⟨hrooms, hrefused⟩ := hreachable.rooms_in_order
  obtain ⟨r, hone⟩ : ∃ r, interrupted.rooms = [r] := ⟨_, rfl⟩
  have hentry : r.enter.2 = .error .notConnected := by
    obtain rfl := List.singleton_inj.1 hone
    rfl
  obtain ⟨-, hcounted, -, hwords⟩ := hrooms r (by simp [hone])
  refine ⟨hreachable, rfl, r, hone, hentry, hcounted, hwords (by decide), ?_⟩
  rw [hrefused (.enter ⟨0⟩) ⟨0⟩ r .notConnected rfl (by simp [hone]) hentry, hone]
  rfl

end Site

end WorkerRoster
