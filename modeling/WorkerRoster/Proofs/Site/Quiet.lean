import WorkerRoster.Proofs.Site.Move

/-!
# What Is Nothing to the Monitors

Most of what happens at a site is nothing to the monitors there: it makes no call and ends none, and
takes nobody in or out of the room of a name. All that outsiders can do is of this kind, unless they
tell a monitor something, or go in or out of the room themselves.

## Main statement

- `Site.Quiet.move`: what outsiders do is nothing to the monitors
-/

set_option autoImplicit false

namespace WorkerRoster

/-- Whether a frame is part of a call of a monitor. -/
def Frame.isTask : Frame → Bool
  | .asking _ _ | .replying _ _ _ => true
  | .telling _ _ | .delivering _ _ | .introducing _ _ | .outside => false

namespace Site

/-- Whether a move does not take anybody through the door of a room from outside. -/
def isSparing (s : Site) (name : String) : Move → Bool
  | .enter room | .leave room => s.findRoom? name ≠ some room
  | _ => true

/-- The monitors. -/
def watchers (s : Site) : List Monitor :=
  s.monitors.map (·.monitor)

/-- What is under way of the calls of monitors. -/
def tasks (s : Site) : List Frame :=
  s.stack.filter Frame.isTask

/-- What is nothing to the monitors, and to the door of a room. -/
structure Quiet (name : String) (s s' : Site) : Prop where
  watchers : s'.watchers = s.watchers
  tasks : s'.tasks = s.tasks
  numbers : s.nextListener.number ≤ s'.nextListener.number
  place : ∀ room, s.findRoom? name = some room → s'.findRoom? name = some room
  door : s'.isEntered name = s.isEntered name

variable {name : String} {s s' s'' : Site}

theorem Quiet.refl (s : Site) : Quiet name s s :=
  ⟨rfl, rfl, Nat.le_refl _, fun _ h => h, rfl⟩

theorem Quiet.trans (s' : Site) (h : Quiet name s s') (h' : Quiet name s' s'') :
    Quiet name s s'' :=
  ⟨h'.watchers.trans h.watchers, h'.tasks.trans h.tasks, Nat.le_trans h.numbers h'.numbers,
    fun _ hroom => h'.place _ (h.place _ hroom), h'.door.trans h.door⟩

theorem findRoom?_of_rooms (h : s'.rooms = s.rooms) : s'.findRoom? name = s.findRoom? name := by
  unfold findRoom?
  rw [h]

theorem isEntered_of_rooms (h : s'.rooms = s.rooms) : s'.isEntered name = s.isEntered name := by
  unfold isEntered
  rw [findRoom?_of_rooms h, h]

/-- What has nothing to do with the rooms. -/
theorem Quiet.of_rooms (rooms : s'.rooms = s.rooms) (watchers : s'.watchers = s.watchers)
    (tasks : s'.tasks = s.tasks) (numbers : s.nextListener.number ≤ s'.nextListener.number) :
    Quiet name s s' :=
  ⟨watchers, tasks, numbers, fun _ h => (findRoom?_of_rooms rooms).trans h,
    isEntered_of_rooms rooms⟩

/-- A frame that is not part of a call. -/
theorem Quiet.push {f : Frame} (h : f.isTask = false) : Quiet name s (s.push f) :=
  .of_rooms rfl rfl (List.filter_cons_of_neg (by simp [h])) (Nat.le_refl _)

/-- A frame that is not part of a call, and is done with. -/
theorem Quiet.pop {f : Frame} (h : f.isTask = false) : Quiet name (s.push f) s :=
  .of_rooms rfl rfl (List.filter_cons_of_neg (by simp [h])).symm (Nat.le_refl _)

/-- A room that is changed, but neither entered nor left. -/
theorem Quiet.changeRoom {room : RoomRef} {f : Room → Room}
    (h : ∀ r, s.rooms[room.index]? = some r → (f r).name = r.name ∧ (f r).isEntered = r.isEntered) :
    Quiet name s (s.changeRoom room f) :=
  ⟨rfl, rfl, Nat.le_refl _,
    fun _ hfound => by rw [findRoom?_changeRoom fun r hr => (h r hr).1, hfound],
    isEntered_changeRoom_of_keeps h⟩

/-- Another room that is changed. -/
theorem Quiet.changeOther {room : RoomRef} {f : Room → Room}
    (h : ∀ r, s.rooms[room.index]? = some r → (f r).name = r.name)
    (other : s.findRoom? name ≠ some room) : Quiet name s (s.changeRoom room f) :=
  ⟨rfl, rfl, Nat.le_refl _, fun _ hfound => by rw [findRoom?_changeRoom h, hfound], by
    rw [isEntered_changeRoom h, if_neg other]⟩

/-- A room that is provided. -/
theorem Quiet.provideRoom (other : String) : Quiet name s (s.provideRoom other).1 := by
  refine ⟨?_, ?_, ?_, fun _ => findRoom?_provideRoom other, isEntered_provideRoom s other⟩
  all_goals
    unfold Site.provideRoom
    split <;> simp [Site.watchers, Site.tasks]

/-- Something that happens to a member, of which a notice goes out. -/
theorem Quiet.happen (room : RoomRef) (f : Room → Room × Notice)
    (h : ∀ r, (f r).1.name = r.name ∧ (f r).1.isEntered = r.isEntered) :
    Quiet name s (s.happen room f) := by
  unfold Site.happen
  split
  · next r hr =>
    refine Quiet.trans _ (.changeRoom fun r' hr' => ?_) (.push rfl)
    -- the room that takes the place of `r'` was made of `r`, which is the same
    rw [hr] at hr'
    cases hr'
    exact h r
  · exact .refl s

theorem watchers_apply_eq (s : Site) (index : Nat) (t : Turn) :
    (s.apply index t).watchers = s.watchers.set index t.monitor := by
  obtain ⟨-, -, hmonitors, -⟩ := s.parts_apply index t
  rw [watchers, hmonitors, watchers]
  apply List.ext_getElem?
  intro i
  simp only [List.getElem?_map, List.getElem?_modify, List.getElem?_set, List.length_map]
  by_cases h : index = i
  · subst h
    cases hpost : s.monitors[index]? with
    | none => simp_all
    | some post => simp [(List.getElem?_eq_some_iff.1 hpost).1]
  · simp [h]

theorem watchers_dropMonitor (s : Site) (index : Nat) :
    (s.dropMonitor index).watchers = s.watchers := by
  unfold dropMonitor watchers
  apply List.ext_getElem?
  intro i
  simp only [List.getElem?_map, List.getElem?_modify]
  split <;> cases s.monitors[i]? <;> rfl

/-- What outsiders do is nothing to the monitors, unless they tell them something. -/
theorem Quiet.move {m : Move} (hwork : m ≠ .work) (hcall : ∀ index c, m ≠ .call index c)
    (sparing : s.isSparing name m) : Quiet name s (s.move m) := by
  cases m with
  | work => exact absurd rfl hwork
  | call index c => exact absurd rfl (hcall index c)
  | setState state =>
    exact Quiet.trans { s with connection := s.connection.setState state }
      (.of_rooms rfl rfl rfl (Nat.le_refl _)) (.push rfl)
  | refuseNextRequest refusal => exact .of_rooms rfl rfl rfl (Nat.le_refl _)
  | requestRoom other =>
    simp only [Site.move, Site.requestRoom]
    split
    · exact .of_rooms rfl rfl rfl (Nat.le_refl _)
    · next connection _ =>
      exact Quiet.trans { s with connection } (.of_rooms rfl rfl rfl (Nat.le_refl _))
        (.provideRoom other)
  | provideRoom other => exact .provideRoom other
  | arrive room id presence => exact .happen room (·.arrive id presence) fun _ => ⟨rfl, rfl⟩
  | update room id presence => exact .happen room (·.update id presence) fun _ => ⟨rfl, rfl⟩
  | depart room id kind => exact .happen room (·.depart id kind) fun _ => ⟨rfl, rfl⟩
  | notify room n => exact .push rfl
  | refuseNextEntry room refusal => exact .changeRoom fun r _ => ⟨rfl, rfl⟩
  | enter room =>
    -- it is another room than the one that is watched
    have hother : s.findRoom? name ≠ some room := by simpa [isSparing] using sparing
    simp only [Site.move, Site.enterRoom]
    split
    · next r hr =>
      have hname : ∀ r', s.rooms[room.index]? = some r' → r.enter.1.name = r'.name := by
        intro r' hr'
        rw [hr] at hr'
        cases hr'
        exact r.name_enter
      split
      · next hentry => exact .changeOther (by simpa [hentry] using hname) hother
      · next hentry =>
        exact Quiet.trans _ (.changeOther (by simpa [hentry] using hname) hother)
          (.push rfl)
    · exact .refl s
  | leave room =>
    have hother : s.findRoom? name ≠ some room := by simpa [isSparing] using sparing
    exact .changeOther (fun r _ => r.name_leave) hother
  | listenToRegistration tag => exact .of_rooms rfl rfl rfl (Nat.le_succ _)
  | listenToRoom room tag =>
    exact Quiet.trans s.takeListener.1 (.of_rooms rfl rfl rfl (Nat.le_succ _))
      (.changeRoom fun r _ => ⟨rfl, rfl⟩)
  | unlistenToRegistration id => exact .of_rooms rfl rfl rfl (Nat.le_refl _)
  | unlistenToRoom room id => exact .changeRoom fun r _ => ⟨rfl, rfl⟩
  | drop index =>
    exact .of_rooms rfl (s.watchers_dropMonitor index) rfl (Nat.le_refl _)

end Site

end WorkerRoster
