import WorkerRoster.Proofs.Site.Mirror
import WorkerRoster.Proofs.Site.Seat

/-!
# What a Move Can Do to a Room

Rooms are made empty, and changed one at a time by what can be done to a room: a member comes, goes
or shows something new, somebody enters or leaves, a listener is added or removed, or a refusal is
arranged. A listener is added under the next number, which is not given out again. What all of these
keep is true of all rooms of a site at any time.

## Main statements

- `Site.keeps_rooms`: what is kept by all that can be done to a room is kept by every move
- `Site.Reachable.isDistinct`: no room ever has a member twice
-/

set_option autoImplicit false

namespace WorkerRoster

/-- What is true of a new room, and kept by all that can be done to a room, where it may depend on
    the number for the next listener. -/
structure Room.Keeps (P : ListenerId → Room → Prop) : Prop where
  new : ∀ next name, P next { name }
  /-- A number is given out, but not in this room. -/
  later : ∀ {next r}, P next r → P next.next r
  arrive : ∀ {next r} id presence, P next r → P next (r.arrive id presence).1
  update : ∀ {next r} id presence, P next r → P next (r.update id presence).1
  depart : ∀ {next r} id kind, P next r → P next (r.depart id kind).1
  enter : ∀ {next r}, P next r → P next r.enter.1
  leave : ∀ {next r}, P next r → P next r.leave
  listen : ∀ {next r} l, P next r → P next.next (r.listen next l)
  unlisten : ∀ {next r} id, P next r → P next (r.unlisten id)
  refuse : ∀ {next} {r : Room} refusal, P next r → P next { r with nextRefusal := some refusal }

namespace Site

/-- Whether something is true of all rooms, with the number there is for the next listener. -/
def AllRooms (P : ListenerId → Room → Prop) (s : Site) : Prop :=
  ∀ r ∈ s.rooms, P s.nextListener r

variable {s s' : Site} {room : RoomRef} {f : Room → Room} {P : ListenerId → Room → Prop}

/-- A change of one room leaves the others as they were. -/
theorem forall_mem_changeRoom {P : Room → Prop} (h : ∀ r ∈ s.rooms, P r)
    (changed : ∀ r, s.rooms[room.index]? = some r → P (f r)) :
    ∀ r ∈ (s.changeRoom room f).rooms, P r := by
  intro r hr
  obtain ⟨i, hi⟩ := List.mem_iff_getElem?.1 hr
  simp only [changeRoom, List.getElem?_modify] at hi
  -- either the room is the one that was changed, or it is one of the others
  split at hi
  · next heq =>
    subst heq
    obtain ⟨r', hr', rfl⟩ := Option.map_eq_some_iff.1 hi
    exact changed r' hr'
  · obtain ⟨r', hr', rfl⟩ := Option.map_eq_some_iff.1 hi
    exact h r' (List.mem_of_getElem? hr')

theorem parts_resume (s : Site) (index : Nat) (p : Pending) (r : p.Reply) :
    (s.resume index p r).rooms = s.rooms ∧
      (s.resume index p r).nextListener = s.nextListener := by
  unfold resume
  split
  · obtain ⟨hrooms, hnext, -⟩ := s.parts_apply index (Monitor.resume _ p r)
    exact ⟨hrooms, hnext⟩
  · exact ⟨rfl, rfl⟩

theorem parts_call (s : Site) (index : Nat) (c : Call) :
    (s.call index c).rooms = s.rooms ∧ (s.call index c).nextListener = s.nextListener := by
  unfold call
  split
  · obtain ⟨hrooms, hnext, -⟩ := s.parts_apply index (Monitor.begin _ c)
    exact ⟨hrooms, hnext⟩
  · exact ⟨rfl, rfl⟩

namespace AllRooms

theorem of_parts (h : s.AllRooms P)
    (parts : s'.rooms = s.rooms ∧ s'.nextListener = s.nextListener) : s'.AllRooms P := by
  intro r hr
  rw [parts.2]
  exact h r (parts.1 ▸ hr)

theorem resume (h : s.AllRooms P) (index : Nat) (p : Pending) (r : p.Reply) :
    (s.resume index p r).AllRooms P :=
  h.of_parts (s.parts_resume index p r)

theorem call (h : s.AllRooms P) (index : Nat) (c : Call) : (s.call index c).AllRooms P :=
  h.of_parts (s.parts_call index c)

theorem changeRoom (h : s.AllRooms P)
    (changed : ∀ r, s.rooms[room.index]? = some r → P s.nextListener (f r)) :
    (s.changeRoom room f).AllRooms P :=
  forall_mem_changeRoom h changed

theorem happen (h : s.AllRooms P) (room : RoomRef) (g : Room → Room × Notice)
    (hg : ∀ {r}, P s.nextListener r → P s.nextListener (g r).1) : (s.happen room g).AllRooms P := by
  unfold Site.happen
  -- a notice goes out besides, which is no matter to the rooms
  split
  · next r hr => exact h.changeRoom fun _ _ => hg (h r (List.mem_of_getElem? hr))
  · exact h

section Keeps

variable (keeps : Room.Keeps P) (h : s.AllRooms P)
include keeps h

theorem later : ∀ r ∈ s.rooms, P s.nextListener.next r :=
  fun r hr => keeps.later (h r hr)

/-- A listener that is added takes the next number, and the other rooms see it given out. -/
theorem listen (room : RoomRef) (l : RoomListener) :
    ({ s with nextListener := s.nextListener.next }.changeRoom room
      (·.listen s.nextListener l)).AllRooms P :=
  forall_mem_changeRoom (h.later keeps) fun r hr => keeps.listen l (h r (List.mem_of_getElem? hr))

/-- Whether it lets in or refuses, a room may have changed when somebody tries to enter. -/
theorem enter {r r' : Room} {result : Except Refusal (List Occupant)}
    (hr : s.rooms[room.index]? = some r) (hentry : r.enter = (r', result)) :
    (s.changeRoom room fun _ => r').AllRooms P := by
  have henter := keeps.enter (h r (List.mem_of_getElem? hr))
  rw [hentry] at henter
  exact h.changeRoom fun _ _ => henter

theorem provideRoom (name : String) : (s.provideRoom name).1.AllRooms P := by
  unfold Site.provideRoom
  split
  · exact h
  · intro r hr
    -- the room that is made comes last, and is new
    rcases List.mem_append.1 hr with hr | hr
    · exact h r hr
    · rw [List.mem_singleton.1 hr]
      exact keeps.new _ name

theorem answer (index : Nat) (p : Pending) : (s.answer index none p).AllRooms P := by
  cases p with
  | withdrawing _ | unsubscribing _ => exact h
  | subscribing => exact h.later keeps -- a number is given out, outside all rooms
  | probing => exact h.resume index .probing _
  | obtaining generation =>
    -- the request is refused, or the room is provided, if there is a monitor to watch it
    unfold Site.answer
    dsimp only
    split
    · next connection _ _ =>
      exact AllRooms.resume (s := { s with connection }) h index _ _
    · next connection _ =>
      split
      · exact AllRooms.provideRoom (s := { s with connection }) keeps h _
      · exact h
  | listening generation room => exact h.listen keeps room _
  | entering generation seat =>
    unfold Site.answer
    dsimp only
    split
    · next r hr =>
      split
      · next hentry => exact (h.enter keeps hr hentry).resume index _ _
      · next hentry => exact h.enter keeps hr hentry
    · exact h
  -- a listener is removed, and its number is not given out again
  | retreating generation seat refusal | releasing seat parting =>
    exact h.changeRoom fun r hr => keeps.unlisten _ (h r (List.mem_of_getElem? hr))
  | leaving seat parting =>
    exact h.changeRoom fun r hr => keeps.leave (h r (List.mem_of_getElem? hr))

theorem step : (s.step none).AllRooms P := by
  unfold Site.step
  -- one case for each kind of innermost frame; only answers to questions can change a room
  split
  · exact h
  · next index p rest _ => exact AllRooms.answer (s := { s with stack := rest }) keeps h index p
  · next index p r rest _ =>
    rw [reply_none]
    exact AllRooms.resume (s := { s with stack := rest }) h index p r
  · exact h
  · next l targets state rest _ =>
    cases l with
    | monitor index =>
      unfold tell
      dsimp only
      split
      · exact AllRooms.call (s := { s with stack := .telling targets state :: rest }) h index _
      · exact h
    | outsider tag => exact h -- what outsiders hear is kept apart from the rooms
  · exact h
  · next l targets n rest _ =>
    cases l with
    | monitor index generation =>
      unfold deliver
      dsimp only
      split
      · exact AllRooms.call (s := { s with stack := .delivering targets n :: rest }) h index _
      · exact h
    | outsider tag => exact h
  · exact h
  · exact h
  · exact h

end Keeps

end AllRooms

/-- What is kept by all that can be done to a room is kept by every move. -/
theorem keeps_rooms (keeps : Room.Keeps P) (h : s.AllRooms P) (m : Move) :
    (s.move m).AllRooms P := by
  have hroom : ∀ {room : RoomRef} {r : Room}, s.rooms[room.index]? = some r → P s.nextListener r :=
    fun hr => h _ (List.mem_of_getElem? hr)
  -- most moves are one of the things that can be done to a room
  cases m with
  | work => exact h.step keeps
  | call index c => exact h.call index c
  | requestRoom name =>
    simp only [move, requestRoom]
    split
    · exact h
    · next connection _ => exact AllRooms.provideRoom (s := { s with connection }) keeps h name
  | provideRoom name => exact h.provideRoom keeps name
  | arrive room id presence => exact h.happen room _ (keeps.arrive id presence)
  | update room id presence => exact h.happen room _ (keeps.update id presence)
  | depart room id kind => exact h.happen room _ (keeps.depart id kind)
  | refuseNextEntry room refusal => exact h.changeRoom fun r hr => keeps.refuse refusal (hroom hr)
  | enter room =>
    -- an outsider who enters is treated as a monitor is, but gets no reply
    simp only [move, enterRoom]
    split
    · next r hr =>
      split
      · next hentry => exact h.enter keeps hr hentry
      · next hentry => exact h.enter keeps hr hentry
    · exact h
  | leave room => exact h.changeRoom fun r hr => keeps.leave (hroom hr)
  -- numbers are shared among all rooms and the registration
  | listenToRegistration tag => exact h.later keeps
  | listenToRoom room tag => exact h.listen keeps room _
  | unlistenToRoom room id => exact h.changeRoom fun r hr => keeps.unlisten id (hroom hr)
  -- the rest leaves the rooms alone
  | setState _ | refuseNextRequest _ | notify _ _ | unlistenToRegistration _ | drop _ => exact h

/-- What is kept by all that can be done to a room is true of all rooms throughout. -/
theorem Reachable.keeps_rooms (h : s.Reachable) (keeps : Room.Keeps P) : s.AllRooms P := by
  induction h with
  | start isUp names => exact nofun
  | move _ m ih => exact Site.keeps_rooms keeps ih m

end Site

/-! ## Members -/

namespace Room

theorem occupants_enter (r : Room) : r.enter.1.occupants = r.occupants := by
  unfold enter
  split
  · rfl
  · split <;> rfl

theorem occupants_leave (r : Room) : r.leave.occupants = r.occupants := by
  unfold leave
  split <;> rfl

theorem keeps_isDistinct : Keeps fun _ => IsDistinct where
  new _ _ := List.nodup_nil
  later h := h
  arrive id presence h := (happens_arrive _ id presence).distinct h
  update id presence h := (happens_update _ id presence).distinct h
  -- whatever the notice says, at most one member is taken away
  depart _ _ h := h.sublist (List.eraseP_sublist.map _)
  enter h := by
    rw [IsDistinct, occupants_enter]
    exact h
  leave h := by
    rw [IsDistinct, occupants_leave]
    exact h
  listen _ h := h
  unlisten _ h := h
  refuse _ h := h

end Room

/-- No room ever has a member twice. -/
theorem Site.Reachable.isDistinct {s : Site} (h : s.Reachable) : ∀ r ∈ s.rooms, r.IsDistinct :=
  h.keeps_rooms Room.keeps_isDistinct

end WorkerRoster
