import WorkerRoster.Site

/-!
# What Happens at a Site

At a site the monitors, the connection, the rooms and everybody else move one after the other, in
any order. The moves of outsiders are all that can be done from outside; they can come at any time,
also while a call is under way.

Rooms are looked up by name. A room keeps its name and its place, so a room that was found once is
found again, whatever was moved since.

## Main statements

- `Site.findRoom?_changeRoom`, `Site.findRoom?_provideRoom`: a room that was found is found again
- `Site.isEntered_changeRoom`: whether a room is entered depends on that room alone
-/

set_option autoImplicit false

namespace WorkerRoster

namespace Room

theorem name_enter (r : Room) : r.enter.1.name = r.name := by
  unfold enter
  split
  · rfl
  · split <;> rfl

theorem name_leave (r : Room) : r.leave.name = r.name := by
  unfold leave
  split <;> rfl

theorem isEntered_enter (r : Room) (h : r.nextRefusal = none) : r.enter.1.isEntered = true := by
  unfold enter
  rw [h]
  dsimp only
  split
  · assumption
  · rfl

theorem isEntered_leave (r : Room) : r.leave.isEntered = false := by
  unfold leave
  split
  · rfl
  · next h => simpa using h

end Room

namespace Site

/-! ## Moves -/

/-- What can happen at a site that has its monitors. -/
inductive Move where
  /-- The innermost frame is worked on. -/
  | work
  /-- A monitor is told something. -/
  | call (index : Nat) (c : Call)
  | setState (state : Registration)
  | refuseNextRequest (refusal : Refusal)
  | requestRoom (name : String)
  | provideRoom (name : String)
  | arrive (room : RoomRef) (id : WorkerId) (presence : Option Presence)
  | update (room : RoomRef) (id : WorkerId) (presence : Presence)
  | depart (room : RoomRef) (id : WorkerId) (kind : NoticeKind)
  /-- Any notice is delivered, whatever the room knows. -/
  | notify (room : RoomRef) (n : Notice)
  | refuseNextEntry (room : RoomRef) (refusal : Refusal)
  | enter (room : RoomRef)
  | leave (room : RoomRef)
  | listenToRegistration (tag : Nat)
  | listenToRoom (room : RoomRef) (tag : Nat)
  | unlistenToRegistration (id : ListenerId)
  | unlistenToRoom (room : RoomRef) (id : ListenerId)
  /-- Nobody holds a monitor any more. -/
  | drop (index : Nat)

/-- The site after a move. -/
def move (s : Site) : Move → Site
  | .work => s.step none
  | .call index c => s.call index c
  | .setState state => s.setState state
  | .refuseNextRequest refusal => s.refuseNextRequest refusal
  | .requestRoom name => (s.requestRoom name).1
  | .provideRoom name => (s.provideRoom name).1
  | .arrive room id presence => s.happen room (·.arrive id presence)
  | .update room id presence => s.happen room (·.update id presence)
  | .depart room id kind => s.happen room (·.depart id kind)
  | .notify room n => s.notify room n
  | .refuseNextEntry room refusal => s.refuseNextEntry room refusal
  | .enter room => (s.enterRoom room).1
  | .leave room => s.leaveRoom room
  | .listenToRegistration tag => (s.listenToRegistration tag).1
  | .listenToRoom room tag => (s.listenToRoom room tag).1
  | .unlistenToRegistration id => s.unlistenToRegistration id
  | .unlistenToRoom room id => s.unlistenToRoom room id
  | .drop index => s.dropMonitor index

/-! ## Turns -/

/-- What a turn changes at a site. -/
theorem parts_apply (s : Site) (index : Nat) (t : Turn) :
    (s.apply index t).rooms = s.rooms ∧ (s.apply index t).nextListener = s.nextListener ∧
      (s.apply index t).monitors =
        s.monitors.modify index (fun post => { post with monitor := t.monitor }) ∧
      (s.apply index t).stack = (t.pending.map (Frame.asking index)).toList ++ s.stack := by
  unfold apply
  cases t.pending with
  | none => exact ⟨rfl, rfl, rfl, rfl⟩
  | some p => cases p <;> exact ⟨rfl, rfl, rfl, rfl⟩

theorem connection_apply (s : Site) (index : Nat) (t : Turn) :
    (s.apply index t).connection = s.connection := by
  unfold apply
  cases t.pending with
  | none => rfl
  | some p => cases p <;> rfl

/-! ## Rooms -/

/-- Whether the room of a name is there and entered. -/
def isEntered (s : Site) (name : String) : Bool :=
  match s.findRoom? name with
  | some room => (s.rooms[room.index]?).any (·.isEntered)
  | none => false

variable {s s' : Site} {name : String} {room : RoomRef} {f : Room → Room}

theorem exists_of_findRoom? (h : s.findRoom? name = some room) :
    ∃ r, s.rooms[room.index]? = some r := by
  obtain ⟨i, hi, rfl⟩ := Option.map_eq_some_iff.1 h
  obtain ⟨hlt, -⟩ := List.findIdx?_eq_some_iff_getElem.1 hi
  exact ⟨_, List.getElem?_eq_getElem hlt⟩

/-- What is found depends on the names alone. -/
theorem findRoom?_of_names (h : s'.rooms.map (·.name) = s.rooms.map (·.name)) :
    s'.findRoom? name = s.findRoom? name := by
  have hnames : ∀ s : Site, s.findRoom? name =
      ((s.rooms.map (·.name)).findIdx? (· = name)).map RoomRef.mk := by
    intro s
    rw [List.findIdx?_map]
    rfl
  rw [hnames, hnames, h]

/-- A room that is changed but keeps its name is found where it was. -/
theorem findRoom?_changeRoom (h : ∀ r, s.rooms[room.index]? = some r → (f r).name = r.name) :
    (s.changeRoom room f).findRoom? name = s.findRoom? name := by
  apply findRoom?_of_names
  -- the names are the same at every place
  apply List.ext_getElem?
  intro i
  simp only [changeRoom, List.getElem?_map, List.getElem?_modify]
  split
  · next hi =>
    subst hi
    cases hr : s.rooms[room.index]? with
    | none => rfl
    | some r => simp [h r hr]
  · simp

/-- Whether a room is entered after a change: as the change has it, if it was this room that was
    changed. -/
theorem isEntered_changeRoom (h : ∀ r, s.rooms[room.index]? = some r → (f r).name = r.name) :
    (s.changeRoom room f).isEntered name =
      if s.findRoom? name = some room then (s.rooms[room.index]?).any (f · |>.isEntered)
      else s.isEntered name := by
  unfold isEntered
  rw [findRoom?_changeRoom h]
  cases hfound : s.findRoom? name with
  | none => simp
  | some found =>
    simp only [changeRoom, List.getElem?_modify, Option.some.injEq]
    obtain ⟨i⟩ := found
    obtain ⟨j⟩ := room
    -- `j` is the place that is changed, `i` the one that is asked about
    by_cases hij : j = i
    · subst hij
      cases s.rooms[j]? <;> simp
    · have hne : ¬ i = j := fun hji => hij hji.symm
      simp [hij, hne]

/-- A change that enters no room and leaves none. -/
theorem isEntered_changeRoom_of_keeps
    (h : ∀ r, s.rooms[room.index]? = some r → (f r).name = r.name ∧ (f r).isEntered = r.isEntered) :
    (s.changeRoom room f).isEntered name = s.isEntered name := by
  rw [isEntered_changeRoom fun r hr => (h r hr).1]
  split
  · next hfound =>
    obtain ⟨r, hr⟩ := exists_of_findRoom? hfound
    simp [isEntered, hfound, hr, (h r hr).2]
  · rfl

/-- A room that was found is found again when a room has been provided. -/
theorem findRoom?_provideRoom (other : String) (h : s.findRoom? name = some room) :
    (s.provideRoom other).1.findRoom? name = some room := by
  unfold provideRoom
  split
  · exact h
  · obtain ⟨i, hi, rfl⟩ := Option.map_eq_some_iff.1 h
    simp [findRoom?, List.findIdx?_append, hi]

/-- The room that has been provided is found. -/
theorem findRoom?_provided (s : Site) (name : String) :
    (s.provideRoom name).1.findRoom? name = some (s.provideRoom name).2 := by
  unfold provideRoom
  split
  · next h => exact h
  · next h =>
    have hnone : s.rooms.findIdx? (·.name = name) = none := by
      simpa [findRoom?] using h
    simp [findRoom?, List.findIdx?_append, hnone, List.findIdx?_cons]

/-- A room that has been provided is not entered on that account. -/
theorem isEntered_provideRoom (s : Site) (other : String) :
    (s.provideRoom other).1.isEntered name = s.isEntered name := by
  cases hfound : s.findRoom? name with
  | some room =>
    obtain ⟨r, hr⟩ := exists_of_findRoom? hfound
    have hr' : (s.provideRoom other).1.rooms[room.index]? = some r := by
      unfold provideRoom
      split
      · exact hr
      · exact List.getElem?_append_left (List.getElem?_eq_some_iff.1 hr).1 ▸ hr
    simp [isEntered, hfound, findRoom?_provideRoom other hfound, hr, hr']
  | none =>
    have hnone : s.rooms.findIdx? (·.name = name) = none := by
      simpa [findRoom?] using hfound
    unfold provideRoom
    split
    · rfl
    · -- a room that is made is not entered, whether or not it is the one that was asked about
      by_cases hname : other = name
      · simp [isEntered, findRoom?, List.findIdx?_append, hnone, List.findIdx?_cons, hname]
      · simp [isEntered, findRoom?, List.findIdx?_append, hnone, List.findIdx?_cons, hname]

end Site

end WorkerRoster
