import Mathlib.Tactic.Simps.Basic
import WorkerRoster.Proofs.Site.Errand

/-!
# Scenes

How things go on at a site with one monitor depends on a few of its parts only: the connection, the
room that is watched, the monitor, and what is under way. A `Scene` is these parts. Other rooms may
be there, but nobody has entered them, so nothing is heard of them.

Each kind of frame has one lemma here that says what becomes of the scene when it is worked on.

## Main statements

- `Site.roomAt_changeRoom`, `Site.roomAt_provideRoom`: a change concerns one room
- `Site.Shows.apply`: what becomes of a scene in a turn of the monitor
-/

set_option autoImplicit false

namespace WorkerRoster

namespace Site

variable {s : Site} {name other : String} {room : RoomRef} {f : Room → Room}

/-! ## Rooms by name -/

/-- The room of a name, or what it would be if it were made now. -/
def roomAt (s : Site) (name : String) : Room :=
  ((s.findRoom? name).bind fun room => s.rooms[room.index]?).getD { name }

theorem roomAt_of_rooms {s' : Site} (h : s'.rooms = s.rooms) : s'.roomAt name = s.roomAt name := by
  unfold roomAt
  rw [findRoom?_of_rooms h, h]

theorem name_of_findRoom? {r : Room} (h : s.findRoom? name = some room)
    (hr : s.rooms[room.index]? = some r) : r.name = name := by
  -- what is found is what was looked for
  obtain ⟨i, hi, rfl⟩ := Option.map_eq_some_iff.1 h
  obtain ⟨hlt, hname, -⟩ := List.findIdx?_eq_some_iff_getElem.1 hi
  obtain ⟨-, rfl⟩ := List.getElem?_eq_some_iff.1 hr
  simpa using hname

theorem getElem?_of_findRoom? (h : s.findRoom? name = some room) :
    s.rooms[room.index]? = some (s.roomAt name) := by
  obtain ⟨r, hr⟩ := exists_of_findRoom? h
  simp [roomAt, h, hr]

theorem name_roomAt (s : Site) (name : String) : (s.roomAt name).name = name := by
  cases h : s.findRoom? name with
  | none => simp [roomAt, h]
  | some room => exact name_of_findRoom? h (getElem?_of_findRoom? h)

theorem isEntered_eq_roomAt (s : Site) (name : String) :
    s.isEntered name = (s.roomAt name).isEntered := by
  unfold isEntered
  cases h : s.findRoom? name with
  | none => simp [roomAt, h]
  | some room => simp [getElem?_of_findRoom? h]

/-- A room that is changed but keeps its name is another one under its name only. -/
theorem roomAt_changeRoom (h : s.findRoom? name = some room)
    (keeps : (f (s.roomAt name)).name = name) :
    (s.changeRoom room f).roomAt other =
      if other = name then f (s.roomAt name) else s.roomAt other := by
  have hroom := getElem?_of_findRoom? h
  -- no room changes its name, so every name is found where it was
  have hnames : (s.changeRoom room f).findRoom? other = s.findRoom? other := by
    apply findRoom?_changeRoom
    intro r hr
    rw [hroom] at hr
    cases hr
    rw [keeps, name_roomAt]
  -- and there is another room only in the place of the one that is changed
  have hchanged : ∀ place : RoomRef, (s.changeRoom room f).rooms[place.index]? =
      (fun r => if room.index = place.index then f r else r) <$> s.rooms[place.index]? :=
    fun place => List.getElem?_modify f room.index s.rooms place.index
  split
  · next heq =>
    rw [heq] at hnames ⊢
    rw [roomAt, hnames, h, Option.bind_some, hchanged, hroom]
    simp
  · next hne =>
    cases hother : s.findRoom? other with
    | none =>
      -- nor is there such a room now
      rw [roomAt, roomAt, hnames, hother]
      rfl
    | some place =>
      -- two names are never found at one place
      have hplace : room.index ≠ place.index := by
        intro heq
        have hsame := getElem?_of_findRoom? hother
        rw [← heq, hroom, Option.some.injEq] at hsame
        apply hne
        rw [← s.name_roomAt other, ← hsame, s.name_roomAt name]
      rw [roomAt, roomAt, hnames, hother, Option.bind_some, Option.bind_some, hchanged]
      simp [hplace]

/-- A room that is provided is as it would have been. -/
theorem roomAt_provideRoom (s : Site) (other name : String) :
    (s.provideRoom other).1.roomAt name = s.roomAt name := by
  cases hfound : s.findRoom? name with
  | some room =>
    -- a new room comes behind the others, and so changes nothing in their places
    have hfound' := findRoom?_provideRoom other hfound
    have hroom : (s.provideRoom other).1.rooms[room.index]? = s.rooms[room.index]? := by
      have hlt := (List.getElem?_eq_some_iff.1 (getElem?_of_findRoom? hfound)).1
      unfold provideRoom
      split
      · rfl
      · exact List.getElem?_append_left hlt
    simp [roomAt, hfound, hfound', hroom]
  | none =>
    have hnone : s.rooms.findIdx? (·.name = name) = none := by
      simpa [findRoom?] using hfound
    unfold provideRoom
    split
    · rfl
    · -- the room that is made is the one that was asked about, or that one is still missing
      by_cases hname : other = name
      · simp [roomAt, findRoom?, List.findIdx?_append, hnone, List.findIdx?_cons, hname]
      · simp [roomAt, findRoom?, List.findIdx?_append, hnone, List.findIdx?_cons, hname]

end Site

/-! ## Scenes -/

/-- What decides how things go on at a site with one monitor. -/
structure Scene where
  connection : Connection
  /-- The room that is watched. -/
  room : Room
  /-- Where the room is found, as far as anybody has to know. -/
  place : Option RoomRef
  monitor : Monitor
  stack : List Frame

namespace Scene

/-- The scene with a frame on top of it. -/
@[simps]
def push (v : Scene) (f : Frame) : Scene :=
  { v with stack := f :: v.stack }

@[simps]
def setConnection (v : Scene) (connection : Connection) : Scene :=
  { v with connection }

@[simps]
def setRoom (v : Scene) (room : Room) : Scene :=
  { v with room }

@[simps]
def setPlace (v : Scene) (place : RoomRef) : Scene :=
  { v with place := some place }

@[simps]
def setMonitor (v : Scene) (monitor : Monitor) : Scene :=
  { v with monitor }

/-- The scene after a turn of the monitor. -/
def turn (v : Scene) (t : Turn) : Scene :=
  { v with monitor := t.monitor, stack := (t.pending.map (Frame.asking 0)).toList ++ v.stack }

variable {v : Scene} {t : Turn}

theorem turn_asking {p : Pending} (h : t.pending = some p) :
    v.turn t = (v.setMonitor t.monitor).push (.asking 0 p) := by
  simp [turn, push, setMonitor, h]

theorem turn_done (h : t.pending = none) : v.turn t = v.setMonitor t.monitor := by
  simp [turn, setMonitor, h]

end Scene

namespace Site

/-- A site is what a scene says. -/
structure Shows (s : Site) (v : Scene) : Prop where
  connection : s.connection = v.connection
  monitors : s.monitors = [{ monitor := v.monitor }]
  room : s.roomAt v.room.name = v.room
  place : ∀ room, v.place = some room → s.findRoom? v.room.name = some room
  others : ∀ name, name ≠ v.room.name → (s.roomAt name).isEntered = false
  stack : s.stack = v.stack

variable {s : Site} {v : Scene} {f : Frame} {room : RoomRef} {g : Room → Room}

namespace Shows

/-! ## Parts of a step -/

theorem push (h : s.Shows v) (f : Frame) : (s.push f).Shows (v.push f) where
  connection := h.connection
  monitors := h.monitors
  room := h.room
  place := h.place
  others := h.others
  stack := congrArg (f :: ·) h.stack

theorem pop {stack : List Frame} (h : s.Shows (v.push f)) :
    ({ s with stack := stack }).Shows { v with stack := stack } where
  connection := h.connection
  monitors := h.monitors
  room := h.room
  place := h.place
  others := h.others
  stack := rfl

theorem setConnection (h : s.Shows v) (c : Connection) :
    ({ s with connection := c }).Shows (v.setConnection c) where
  connection := rfl
  monitors := h.monitors
  room := h.room
  place := h.place
  others := h.others
  stack := h.stack

theorem takeListener (h : s.Shows v) : s.takeListener.1.Shows v where
  connection := h.connection
  monitors := h.monitors
  room := h.room
  place := h.place
  others := h.others
  stack := h.stack

theorem changeRoom (h : s.Shows v) (place : v.place = some room)
    (keeps : (g v.room).name = v.room.name) :
    (s.changeRoom room g).Shows (v.setRoom (g v.room)) := by
  -- where the place is known, it is the room that is watched that changes
  have hplace := h.place room place
  have hchange : ∀ other, (s.changeRoom room g).roomAt other =
      if other = v.room.name then g v.room else s.roomAt other := by
    intro other
    rw [roomAt_changeRoom hplace (by rw [h.room, keeps]), h.room]
  constructor
  case connection => exact h.connection
  case monitors => exact h.monitors
  case stack => exact h.stack
  case room => simp only [Scene.setRoom_room, keeps, hchange, if_true]
  case place =>
    -- it is still found there, because it keeps its name
    intro place' hplace'
    simp only [Scene.setRoom_room, keeps]
    rw [findRoom?_changeRoom, h.place place' hplace']
    intro r hr
    rw [getElem?_of_findRoom? hplace, h.room] at hr
    cases hr
    exact keeps
  case others =>
    intro name hname
    simp only [Scene.setRoom_room, keeps] at hname
    -- the change does not concern the other rooms
    rw [hchange, if_neg hname]
    exact h.others name hname

/-- A change in a room that nobody watches and nobody enters. -/
theorem changeOther {name : String} (h : s.Shows v) (hroom : s.findRoom? name = some room)
    (hname : name ≠ v.room.name) (keeps : (g (s.roomAt name)).name = name)
    (away : (g (s.roomAt name)).isEntered = false) : (s.changeRoom room g).Shows v := by
  constructor
  case connection => exact h.connection
  case monitors => exact h.monitors
  case stack => exact h.stack
  case room =>
    -- the room that is watched is not the one that changes
    rw [roomAt_changeRoom hroom keeps, if_neg (Ne.symm hname)]
    exact h.room
  case place =>
    intro place' hplace'
    rw [findRoom?_changeRoom, h.place place' hplace']
    intro r hr
    rw [getElem?_of_findRoom? hroom] at hr
    cases hr
    rw [keeps, name_roomAt]
  case others =>
    intro other hother
    rw [roomAt_changeRoom hroom keeps]
    -- nobody is in the room that changed, nor in the rest
    split
    · exact away
    · exact h.others other hother

theorem provideOther (h : s.Shows v) (name : String) : (s.provideRoom name).1.Shows v := by
  -- at most the rooms have changed
  have hparts : (s.provideRoom name).1.connection = s.connection ∧
      (s.provideRoom name).1.monitors = s.monitors ∧
      (s.provideRoom name).1.stack = s.stack := by
    unfold provideRoom
    split <;> exact ⟨rfl, rfl, rfl⟩
  obtain ⟨hconnection, hmonitors, hstack⟩ := hparts
  constructor
  case connection => exact hconnection.trans h.connection
  case monitors => exact hmonitors.trans h.monitors
  case stack => exact hstack.trans h.stack
  case room => exact (roomAt_provideRoom s name _).trans h.room
  case place => exact fun room hroom => findRoom?_provideRoom name (h.place room hroom)
  case others =>
    intro other hother
    rw [roomAt_provideRoom]
    exact h.others other hother

/-- Once the room that is watched has been provided, its place is known. -/
theorem provideRoom (h : s.Shows v) : (s.provideRoom v.room.name).1.Shows
    (v.setPlace (s.provideRoom v.room.name).2) := by
  have hsame := h.provideOther v.room.name
  constructor
  case connection => exact hsame.connection
  case monitors => exact hsame.monitors
  case stack => exact hsame.stack
  case room => exact hsame.room
  case place =>
    -- whether it was made just now or was there before
    rintro _ ⟨⟩
    exact findRoom?_provided s v.room.name
  case others => exact hsame.others

/-- What becomes of a scene in a turn of the monitor. -/
theorem apply (h : s.Shows v) (t : Turn) : (s.apply 0 t).Shows (v.turn t) := by
  -- a turn concerns the monitor and what is under way
  obtain ⟨hrooms, -, hmonitors, hstack⟩ := s.parts_apply 0 t
  constructor
  case connection => exact (s.connection_apply 0 t).trans h.connection
  case monitors =>
    rw [hmonitors, h.monitors]
    rfl
  case room => exact (roomAt_of_rooms hrooms).trans h.room
  case place => exact fun room hroom => (findRoom?_of_rooms hrooms).trans (h.place room hroom)
  case others =>
    intro name hname
    rw [roomAt_of_rooms hrooms]
    exact h.others name hname
  case stack =>
    rw [hstack, h.stack]
    rfl

theorem call (h : s.Shows v) (c : Call) : (s.call 0 c).Shows (v.turn (v.monitor.begin c)) := by
  unfold Site.call
  rw [h.monitors]
  exact h.apply _

theorem resume (h : s.Shows v) (p : Pending) (r : p.Reply) :
    (s.resume 0 p r).Shows (v.turn (v.monitor.resume p r)) := by
  unfold Site.resume
  rw [h.monitors]
  exact h.apply _

theorem isThere (h : s.Shows v) : s.isThere 0 = true := by
  unfold Site.isThere
  rw [h.monitors]
  rfl

theorem roomAudience (h : s.Shows v) (place : v.place = some room) :
    s.roomAudience room = v.room.audience := by
  unfold Site.roomAudience
  rw [getElem?_of_findRoom? (h.place room place), h.room]

/-! ## Questions of the monitor -/

/-- A question is worked on by answering it. -/
theorem step_asking {p : Pending} (h : s.Shows (v.push (.asking 0 p))) :
    ∃ s₀ : Site, s₀.Shows v ∧ s.step none = s₀.answer 0 none p := by
  refine ⟨{ s with stack := v.stack }, h.pop, ?_⟩
  unfold step
  rw [h.stack]
  rfl

theorem step_replying {p : Pending} {r : p.Reply} (h : s.Shows (v.push (.replying 0 p r))) :
    (s.step none).Shows (v.turn (v.monitor.resume p r)) := by
  have hstep : s.step none = ({ s with stack := v.stack }).resume 0 p r := by
    unfold step
    rw [h.stack]
    -- nobody refuses the reply on its way
    cases p <;> rfl
  rw [hstep]
  exact h.pop.resume p r

theorem step_subscribing (h : s.Shows (v.push (.asking 0 .subscribing))) :
    ∃ id, (s.step none).Shows
      ((v.setConnection (v.connection.listen id (.monitor 0))).push
        (.replying 0 .subscribing id)) := by
  obtain ⟨s₀, h, hstep⟩ := h.step_asking
  -- the number is not part of the scene, but the listener is
  refine ⟨s₀.nextListener, ?_⟩
  rw [hstep, ← h.connection]
  exact (h.takeListener.setConnection _).push _

theorem step_unsubscribing {id : ListenerId}
    (h : s.Shows (v.push (.asking 0 (.unsubscribing id)))) :
    (s.step none).Shows
      ((v.setConnection (v.connection.unlisten id)).push
        (.replying 0 (.unsubscribing id) ())) := by
  obtain ⟨s₀, h, hstep⟩ := h.step_asking
  rw [hstep, ← h.connection]
  exact (h.setConnection _).push _

theorem step_probing (h : s.Shows (v.push (.asking 0 .probing))) :
    (s.step none).Shows (v.turn (v.monitor.resume .probing v.connection.isUp)) := by
  obtain ⟨s₀, h, hstep⟩ := h.step_asking
  rw [hstep, ← h.connection]
  exact h.resume .probing s₀.connection.isUp

section Attempt

variable {c : Connection} {r : Room} {generation : UInt64} {seat : Seat} {refusal : Refusal}

theorem step_obtaining_refused (h : s.Shows (v.push (.asking 0 (.obtaining generation))))
    (request : v.connection.request = (c, .error refusal)) :
    (s.step none).Shows
      ((v.setConnection c).turn
        (v.monitor.resume (.obtaining generation) (.error refusal))) := by
  obtain ⟨s₀, h, hstep⟩ := h.step_asking
  -- the refusal is used up, and the monitor goes on at once
  have hanswer : s₀.answer 0 none (.obtaining generation) =
      ({ s₀ with connection := c }).resume 0 (.obtaining generation) (.error refusal) := by
    simp only [answer, h.connection, request]
  rw [hstep, hanswer]
  exact (h.setConnection c).resume (.obtaining generation) (.error refusal)

theorem step_obtaining (h : s.Shows (v.push (.asking 0 (.obtaining generation))))
    (request : v.connection.request = (c, .ok ())) (watched : v.monitor.room = v.room.name) :
    ∃ room, (s.step none).Shows
      (((v.setConnection c).setPlace room).push
        (.replying 0 (.obtaining generation) (.ok room))) := by
  obtain ⟨s₀, h, hstep⟩ := h.step_asking
  -- the monitor asks for the room that it watches
  have hanswer : s₀.answer 0 none (.obtaining generation) =
      ((({ s₀ with connection := c }).provideRoom v.room.name).1).push
        (.replying 0 (.obtaining generation)
          (.ok (({ s₀ with connection := c }).provideRoom v.room.name).2)) := by
    simp only [answer, h.connection, request, h.monitors, List.getElem?_cons_zero, watched]
  rw [hstep, hanswer]
  exact ⟨_, (h.setConnection c).provideRoom.push _⟩

theorem step_listening (h : s.Shows (v.push (.asking 0 (.listening generation room))))
    (place : v.place = some room) :
    ∃ id, (s.step none).Shows
      ((v.setRoom (v.room.listen id (.monitor 0 generation))).push
        (.replying 0 (.listening generation room) id)) := by
  obtain ⟨s₀, h, hstep⟩ := h.step_asking
  refine ⟨s₀.nextListener, ?_⟩
  rw [hstep]
  exact (h.takeListener.changeRoom place rfl).push _

theorem step_entering_refused (h : s.Shows (v.push (.asking 0 (.entering generation seat))))
    (place : v.place = some seat.room) (enter : v.room.enter = (r, .error refusal)) :
    (s.step none).Shows
      ((v.setRoom r).turn
        (v.monitor.resume (.entering generation seat) (.error refusal))) := by
  obtain ⟨s₀, h, hstep⟩ := h.step_asking
  -- the seat is in the room that is watched
  have hroom := getElem?_of_findRoom? (h.place _ place)
  have hanswer : s₀.answer 0 none (.entering generation seat) =
      (s₀.changeRoom seat.room fun _ => r).resume 0 (.entering generation seat)
        (.error refusal) := by
    simp only [answer, hroom, h.room, enter]
  -- a refusal does not rename the room
  have hname : r.name = v.room.name := by
    simpa [enter] using v.room.name_enter
  rw [hstep, hanswer]
  exact (h.changeRoom place hname).resume (.entering generation seat) (.error refusal)

theorem step_entering {occupants : List Occupant}
    (h : s.Shows (v.push (.asking 0 (.entering generation seat))))
    (place : v.place = some seat.room) (enter : v.room.enter = (r, .ok occupants)) :
    (s.step none).Shows
      (((v.setRoom r).push (.replying 0 (.entering generation seat) (.ok ()))).push
        (.introducing seat.room occupants)) := by
  obtain ⟨s₀, h, hstep⟩ := h.step_asking
  have hroom := getElem?_of_findRoom? (h.place _ place)
  -- before the reply comes, whoever is there is introduced
  have hanswer : s₀.answer 0 none (.entering generation seat) =
      ((s₀.changeRoom seat.room fun _ => r).push
        (.replying 0 (.entering generation seat) (.ok ()))).push
          (.introducing seat.room occupants) := by
    simp only [answer, hroom, h.room, enter]
  have hname : r.name = v.room.name := by
    simpa [enter] using v.room.name_enter
  rw [hstep, hanswer]
  exact ((h.changeRoom place hname).push _).push _

theorem step_retreating (h : s.Shows (v.push (.asking 0 (.retreating generation seat refusal))))
    (place : v.place = some seat.room) :
    (s.step none).Shows
      ((v.setRoom (v.room.unlisten seat.listener)).push
        (.replying 0 (.retreating generation seat refusal) ())) := by
  obtain ⟨s₀, h, hstep⟩ := h.step_asking
  rw [hstep]
  exact (h.changeRoom place rfl).push _

end Attempt

section Departure

variable {seat : Seat} {parting : Parting}

theorem step_releasing (h : s.Shows (v.push (.asking 0 (.releasing seat parting))))
    (place : v.place = some seat.room) :
    (s.step none).Shows
      ((v.setRoom (v.room.unlisten seat.listener)).push
        (.replying 0 (.releasing seat parting) ())) := by
  obtain ⟨s₀, h, hstep⟩ := h.step_asking
  rw [hstep]
  exact (h.changeRoom place rfl).push _

theorem step_leaving (h : s.Shows (v.push (.asking 0 (.leaving seat parting))))
    (place : v.place = some seat.room) :
    (s.step none).Shows
      ((v.setRoom v.room.leave).push (.replying 0 (.leaving seat parting) ())) := by
  obtain ⟨s₀, h, hstep⟩ := h.step_asking
  rw [hstep]
  exact (h.changeRoom place v.room.name_leave).push _

end Departure

/-! ## Listeners -/

theorem step_telling_nil {state : Registration} (h : s.Shows (v.push (.telling [] state))) :
    (s.step none).Shows v := by
  have hstep : s.step none = { s with stack := v.stack } := by
    unfold step
    rw [h.stack]
    rfl
  rw [hstep]
  exact h.pop

theorem step_telling {targets : List RegistrationListener} {state : Registration}
    (h : s.Shows (v.push (.telling (.monitor 0 :: targets) state))) :
    (s.step none).Shows
      ((v.push (.telling targets state)).turn (v.monitor.begin (.registration state))) := by
  -- the others are told once the monitor is done
  have hbelow : ({ s with stack := .telling targets state :: v.stack }).Shows
      (v.push (.telling targets state)) := h.pop
  have hstep : s.step none =
      ({ s with stack := .telling targets state :: v.stack }).call 0 (.registration state) := by
    unfold step
    rw [h.stack]
    exact if_pos hbelow.isThere
  rw [hstep]
  exact hbelow.call (.registration state)

theorem step_delivering_nil {n : Notice} (h : s.Shows (v.push (.delivering [] n))) :
    (s.step none).Shows v := by
  have hstep : s.step none = { s with stack := v.stack } := by
    unfold step
    rw [h.stack]
    rfl
  rw [hstep]
  exact h.pop

theorem step_delivering {generation : UInt64} {targets : List RoomListener} {n : Notice}
    (h : s.Shows (v.push (.delivering (.monitor 0 generation :: targets) n))) :
    (s.step none).Shows
      ((v.push (.delivering targets n)).turn (v.monitor.hear generation n)) := by
  -- again with the others below it
  have hbelow : ({ s with stack := .delivering targets n :: v.stack }).Shows
      (v.push (.delivering targets n)) := h.pop
  have hstep : s.step none =
      ({ s with stack := .delivering targets n :: v.stack }).call 0 (.notice generation n) := by
    unfold step
    rw [h.stack]
    exact if_pos hbelow.isThere
  rw [hstep]
  exact hbelow.call (.notice generation n)

theorem step_introducing_nil (h : s.Shows (v.push (.introducing room []))) :
    (s.step none).Shows v := by
  have hstep : s.step none = { s with stack := v.stack } := by
    unfold step
    rw [h.stack]
    rfl
  rw [hstep]
  exact h.pop

theorem step_introducing {o : Occupant} {waiting : List Occupant}
    (h : s.Shows (v.push (.introducing room (o :: waiting)))) (place : v.place = some room) :
    (s.step none).Shows
      ((v.push (.introducing room waiting)).push (.delivering v.room.audience ⟨.joined, o⟩)) := by
  have hbelow : ({ s with stack := .introducing room waiting :: v.stack }).Shows
      (v.push (.introducing room waiting)) := h.pop
  -- who listens is settled for each member as its turn comes
  have hstep : s.step none = ({ s with stack := .introducing room waiting :: v.stack }).push
      (.delivering (({ s with stack := .introducing room waiting :: v.stack }).roomAudience room)
        ⟨.joined, o⟩) := by
    unfold step
    rw [h.stack]
    rfl
  -- the place is that of the room that is watched, so its listeners are called
  rw [hstep, hbelow.roomAudience place]
  exact hbelow.push _

end Shows

end Site

end WorkerRoster
