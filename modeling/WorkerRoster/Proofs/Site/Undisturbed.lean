import WorkerRoster.Proofs.Site.Dismissal
import WorkerRoster.Proofs.Site.Mirror
import WorkerRoster.Proofs.Site.Outline

/-!
# Undisturbed Calls

Nobody interrupts the work on an errand, so a call of the monitor has its replies in the order of
its questions, and what it finds is what it left. Here it is followed from rest to rest: what the
monitor does when it tries to enter the room and when it goes away, and from these two what becomes
of a scene in every errand.

At rest the monitor is away or present, and the room, the listeners and the roster agree with that.
This is `Scene.Rests`. While something else is under way below a call, the rest of the scene is at
rest all the same, so the stack is no part of it.

## Main statements

- `Scene.Rests.tryEnter`, `Scene.Rests.goAway`: a scene before and after an undisturbed call
- `Scene.Rests.errand`: a scene before and after an errand
-/

set_option autoImplicit false

namespace WorkerRoster

namespace Monitor

/-- The monitor with another roster. -/
@[simps]
def knowing (m : Monitor) (roster : Roster) : Monitor :=
  { m with roster }

/-- The monitor when it has begun an attempt. -/
@[simps]
def trying (m : Monitor) : Monitor :=
  { m with phase := .joining, generation := m.generation + 1 }

/-- The monitor when it is away again, and knows nobody any more. -/
@[simps]
def gone (m : Monitor) : Monitor :=
  { m with phase := .away, generation := m.generation + 1, roster := .empty }

end Monitor

namespace Scene

/-! ## Work on a scene -/

/-- Work leads from a scene to one with a property. -/
def Leads (v : Scene) (P : Scene → Prop) : Prop :=
  ∀ s : Site, s.Shows v → ∃ (s' : Site) (w : Scene), s.Works s' ∧ s'.Shows w ∧ P w

variable {v w : Scene} {P Q : Scene → Prop}

theorem Leads.here (h : P v) : v.Leads P :=
  fun s shows => ⟨s, v, .refl, shows, h⟩

theorem Leads.step (step : ∀ s : Site, s.Shows v → (s.step none).Shows w) (later : w.Leads P) :
    v.Leads P := by
  intro s shows
  obtain ⟨s', w', works, shows', h⟩ := later _ (step s shows)
  exact ⟨s', w', .step works, shows', h⟩

theorem Leads.step_exists {α : Type} {w : α → Scene}
    (step : ∀ s : Site, s.Shows v → ∃ a, (s.step none).Shows (w a)) (later : ∀ a, (w a).Leads P) :
    v.Leads P := by
  intro s shows
  obtain ⟨a, shows₁⟩ := step s shows
  obtain ⟨s', w', works, shows', h⟩ := later a _ shows₁
  exact ⟨s', w', .step works, shows', h⟩

theorem Leads.mono (h : v.Leads Q) (hP : ∀ w, Q w → P w) : v.Leads P :=
  fun s shows =>
    let ⟨s', w, works, shows', hw⟩ := h s shows
    ⟨s', w, works, shows', hP w hw⟩

theorem Leads.trans (h : v.Leads Q) (later : ∀ w, Q w → w.Leads P) : v.Leads P := by
  intro s shows
  obtain ⟨s₁, w₁, works₁, shows₁, h₁⟩ := h s shows
  obtain ⟨s', w', works', shows', h'⟩ := later w₁ h₁ s₁ shows₁
  exact ⟨s', w', works₁.trans works', shows', h'⟩

/-! ## Rest -/

/-- The monitor is away, or it is in the room, and the room and the roster agree about it. -/
inductive Stands (m : Monitor) (r : Room) (place : Option RoomRef) : Prop where
  | away (phase : m.phase = .away) (nobody : m.roster = .empty) (left : r.isEntered = false)
      (deaf : r.listeners = [])
  | present (seat : Seat) (phase : m.phase = .present seat) (place : place = some seat.room)
      (entered : r.isEntered = true)
      (hears : r.listeners = [(seat.listener, .monitor 0 m.generation)])
      (mirror : m.roster.Reflects r)

theorem Stands.of_eq {m m' : Monitor} {r : Room} {place : Option RoomRef} (h : Stands m r place)
    (phase : m'.phase = m.phase) (generation : m'.generation = m.generation)
    (roster : m'.roster = m.roster) : Stands m' r place := by
  cases h with
  | away away nobody left deaf => exact .away (phase.trans away) (roster.trans nobody) left deaf
  | present seat present place entered hears mirror =>
    exact .present seat (phase.trans present) place entered (generation ▸ hears) (roster ▸ mirror)

/-- No call of the monitor is under way. -/
structure Rests (v : Scene) : Prop where
  watched : v.monitor.room = v.room.name
  subscribed : v.monitor.isSubscribed = v.monitor.subscription.isSome
  hears : v.connection.listeners = (v.monitor.subscription.map (·, .monitor 0)).toList
  members : v.room.IsDistinct
  workers : v.monitor.roster.IsDistinct
  stands : Stands v.monitor v.room v.place

theorem Rests.push (h : v.Rests) (f : Frame) : (v.push f).Rests :=
  ⟨h.watched, h.subscribed, h.hears, h.members, h.workers, h.stands⟩

theorem Rests.setConnection (h : v.Rests) {c : Connection}
    (listeners : c.listeners = v.connection.listeners) : (v.setConnection c).Rests :=
  ⟨h.watched, h.subscribed, listeners.trans h.hears, h.members, h.workers, h.stands⟩

/-- A call has brought a scene to rest again: what was under way before still is, the outline is
    the one that was to be expected, and if the room was entered on the way, it still is, and the
    roster knows just the workers among the members. -/
structure Becomes (v : Scene) (o : Outline) (w : Scene) : Prop where
  rests : w.Rests
  name : w.room.name = v.room.name
  stack : w.stack = v.stack
  outline : w.outline = o
  fresh : w.room.entries ≠ v.room.entries → w.room.isEntered = true ∧
    w.monitor.roster.workers = w.room.occupants.filterMap Occupant.worker?

/-- What has been left as it was at rest is at rest. -/
theorem Rests.leads_self (h : v.Rests) : v.Leads (v.Becomes v.outline) :=
  .here ⟨h, rfl, rfl, rfl, absurd rfl⟩

/-- It does not matter for what becomes of a scene what was changed in it before. -/
theorem Becomes.of_changed {o : Outline} {u : Scene} (h : u.Becomes o w)
    (name : u.room.name = v.room.name) (stack : u.stack = v.stack)
    (entries : u.room.entries = v.room.entries) : v.Becomes o w := by
  refine ⟨h.rests, h.name.trans name, h.stack.trans stack, h.outline, ?_⟩
  rw [← entries]
  exact h.fresh

/-- A monitor that is away again, and has nobody in the room to hear for it, is at rest. -/
theorem Rests.becomes_gone (h : v.Rests) {c : Connection} {r : Room} {place : Option RoomRef}
    {generation : UInt64} {o : Outline} (listeners : c.listeners = v.connection.listeners)
    (name : r.name = v.room.name) (members : r.IsDistinct) (left : r.isEntered = false)
    (deaf : r.listeners = []) (entries : r.entries = v.room.entries)
    (outline : outline ⟨c, r, place, { v.monitor.gone with generation }, v.stack⟩ = o) :
    v.Becomes o ⟨c, r, place, { v.monitor.gone with generation }, v.stack⟩ := by
  constructor
  case rests =>
    exact ⟨h.watched.trans name.symm, h.subscribed, listeners.trans h.hears, members,
      Roster.isDistinct_empty, .away rfl rfl left deaf⟩
  case name => exact name
  case stack => rfl
  case outline => exact outline
  case fresh => exact absurd entries

theorem setMonitor_push (v : Scene) (f : Frame) (m : Monitor) :
    (v.push f).setMonitor m = (v.setMonitor m).push f :=
  rfl

/-! ## Notices -/

theorem turn_hear {generation : UInt64} (h : v.monitor.heeds generation) (n : Notice) :
    v.turn (v.monitor.hear generation n) =
      v.setMonitor (v.monitor.knowing (v.monitor.roster.heed n)) := by
  have hmonitor : (v.monitor.hear generation n).monitor =
      v.monitor.knowing (v.monitor.roster.heed n) := by
    unfold Monitor.hear Roster.heed
    cases n.status? with
    | none => rfl
    | some status => simp [h, Monitor.knowing]
  rw [turn_done (v.monitor.pending_hear generation n), hmonitor]

theorem leads_delivering_nil {n : Notice} (later : v.Leads P) :
    (v.push (.delivering [] n)).Leads P :=
  .step (fun _ shows => shows.step_delivering_nil) later

theorem leads_delivering {generation : UInt64} (h : v.monitor.heeds generation) (n : Notice)
    (later : (v.setMonitor (v.monitor.knowing (v.monitor.roster.heed n))).Leads P) :
    (v.push (.delivering [.monitor 0 generation] n)).Leads P := by
  apply Leads.step fun _ shows => shows.step_delivering
  have hbelow : (v.push (.delivering [] n)).monitor.heeds generation := h
  show ((v.push (.delivering [] n)).turn
    ((v.push (.delivering [] n)).monitor.hear generation n)).Leads P
  rw [turn_hear hbelow]
  exact leads_delivering_nil later

/-- The monitor is introduced to one member after the other. -/
theorem leads_introducing (generation : UInt64) {room : RoomRef} (os : List Occupant)
    (place : v.place = some room) (audience : v.room.audience = [.monitor 0 generation])
    (heeds : v.monitor.heeds generation)
    (later :
      (v.setMonitor (v.monitor.knowing (v.monitor.roster.introduce os))).Leads P) :
    (v.push (.introducing room os)).Leads P := by
  induction os generalizing v with
  | nil => exact .step (fun _ shows => shows.step_introducing_nil) later
  | cons o os ih =>
    apply Leads.step fun _ shows => shows.step_introducing place
    rw [audience]
    have hbelow : (v.push (.introducing room os)).monitor.heeds generation := heeds
    apply leads_delivering hbelow
    -- the rest is introduced to a monitor that has met one member more
    exact ih (v := v.setMonitor (v.monitor.knowing (v.monitor.roster.heed ⟨.joined, o⟩)))
      place audience heeds later

/-! ## Trying to enter -/

theorem leads_failing {generation : UInt64} (awaited : v.monitor.awaits generation)
    (refusal : Refusal) (later : (v.setMonitor v.monitor.gone).Leads P) :
    (v.turn (v.monitor.fail generation refusal)).Leads P := by
  have hmonitor : (v.monitor.fail generation refusal).monitor = v.monitor.gone := by
    simp [Monitor.fail, Monitor.gone, awaited]
  rw [turn_done (v.monitor.pending_fail generation refusal), hmonitor]
  exact later

theorem leads_entering_refused {seat : Seat} {refusal : Refusal} (place : v.place = some seat.room)
    (joining : v.monitor.phase = .joining) (refused : v.room.nextRefusal = some refusal)
    (later : ((v.setRoom (({ v.room with nextRefusal := none } : Room).unlisten
      seat.listener)).setMonitor v.monitor.gone).Leads P) :
    (v.push (.asking 0 (.entering v.monitor.generation seat))).Leads P := by
  have henter : v.room.enter = ({ v.room with nextRefusal := none }, .error refusal) := by
    simp [Room.enter, refused]
  apply Leads.step fun _ shows => shows.step_entering_refused place henter
  rw [turn_asking (p := .retreating v.monitor.generation seat refusal) rfl]
  apply Leads.step
  · exact fun _ shows => shows.step_retreating place
  apply Leads.step fun _ shows => shows.step_replying
  apply leads_failing
  · exact (Monitor.awaits_iff _ _).2 ⟨rfl, joining⟩
  · exact later

theorem leads_entering {seat : Seat} (place : v.place = some seat.room)
    (joining : v.monitor.phase = .joining) (allowed : v.room.nextRefusal = none)
    (left : v.room.isEntered = false)
    (hears : v.room.listeners = [(seat.listener, .monitor 0 v.monitor.generation)])
    (later : ((v.setRoom { v.room with
        isEntered := true, entries := v.room.entries + 1 }).setMonitor
          { v.monitor.knowing (v.monitor.roster.introduce v.room.occupants) with
            phase := .present seat }).Leads P) :
    (v.push (.asking 0 (.entering v.monitor.generation seat))).Leads P := by
  have henter : v.room.enter =
      ({ v.room with isEntered := true, entries := v.room.entries + 1 },
        .ok v.room.occupants) := by
    simp [Room.enter, allowed, left]
  apply Leads.step fun _ shows => shows.step_entering place henter
  apply leads_introducing v.monitor.generation
  · exact place
  · simp [Room.audience, hears]
  · exact (Monitor.heeds_iff _ _).2 ⟨rfl, by simp [joining]⟩
  -- the monitor that has met everybody still waits to be let in
  rw [setMonitor_push]
  apply Leads.step fun _ shows => shows.step_replying
  have awaited : (v.monitor.knowing (v.monitor.roster.introduce v.room.occupants)).awaits
      v.monitor.generation := (Monitor.awaits_iff _ _).2 ⟨rfl, joining⟩
  have hturn : (v.monitor.knowing (v.monitor.roster.introduce v.room.occupants)).resume
      (.entering v.monitor.generation seat) (.ok ()) =
        { monitor := { v.monitor.knowing (v.monitor.roster.introduce v.room.occupants) with
            phase := .present seat },
          effects := [v.monitor.roomEntry .info "joined brewery room" []] } :=
    if_pos awaited
  simp only [setMonitor_monitor, setRoom_monitor, push_monitor]
  rw [hturn, turn_done rfl]
  exact later

theorem leads_obtaining_refused {c : Connection} {refusal : Refusal}
    (request : v.connection.request = (c, .error refusal)) (joining : v.monitor.phase = .joining)
    (later : ((v.setConnection c).setMonitor v.monitor.gone).Leads P) :
    (v.push (.asking 0 (.obtaining v.monitor.generation))).Leads P := by
  apply Leads.step fun _ shows => shows.step_obtaining_refused request
  apply leads_failing
  · exact (Monitor.awaits_iff _ _).2 ⟨rfl, joining⟩
  · exact later

theorem leads_obtaining {c : Connection} (request : v.connection.request = (c, .ok ()))
    (watched : v.monitor.room = v.room.name) (deaf : v.room.listeners = [])
    (later : ∀ seat : Seat, ((((v.setConnection c).setPlace seat.room).setRoom
      { v.room with listeners := [(seat.listener, .monitor 0 v.monitor.generation)] }).push
        (.asking 0 (.entering v.monitor.generation seat))).Leads P) :
    (v.push (.asking 0 (.obtaining v.monitor.generation))).Leads P := by
  apply Leads.step_exists fun _ shows => shows.step_obtaining request watched
  intro room
  apply Leads.step fun _ shows => shows.step_replying
  rw [turn_asking (p := .listening v.monitor.generation room) rfl]
  apply Leads.step_exists
  · exact fun _ shows => shows.step_listening rfl
  intro id
  apply Leads.step fun _ shows => shows.step_replying
  rw [turn_asking (p := .entering v.monitor.generation ⟨room, id⟩) rfl]
  have hlisten : v.room.listen id (.monitor 0 v.monitor.generation) =
      { v.room with listeners := [(id, .monitor 0 v.monitor.generation)] } := by
    simp [Room.listen, deaf]
  have hlater := later ⟨room, id⟩
  rw [← hlisten] at hlater
  exact hlater

theorem turn_tryEnter (phase : v.monitor.phase = .away) :
    v.turn v.monitor.tryEnter = (v.setMonitor v.monitor.trying).push
      (.asking 0 (.obtaining v.monitor.trying.generation)) := by
  have hturn : v.monitor.tryEnter = { v.monitor.tryEnter with
      monitor := v.monitor.trying
      pending := some (.obtaining v.monitor.trying.generation) } := by
    simp [Monitor.tryEnter, phase, Phase.isAway, Monitor.trying]
  rw [hturn, turn_asking rfl]

/-- The scene when the monitor is in the room and has met everybody there. -/
def joined (v : Scene) (c : Connection) (seat : Seat) (generation : UInt64) : Scene where
  connection := c
  room :=
    { v.room with
      isEntered := true
      entries := v.room.entries + 1
      listeners := [(seat.listener, .monitor 0 generation)] }
  place := some seat.room
  monitor :=
    { v.monitor.knowing (v.monitor.roster.introduce v.room.occupants) with
      phase := .present seat
      generation }
  stack := v.stack

theorem Rests.becomes_joined (h : v.Rests) (nobody : v.monitor.roster = .empty) {c : Connection}
    {seat : Seat} {generation : UInt64} {o : Outline}
    (listeners : c.listeners = v.connection.listeners)
    (outline : (v.joined c seat generation).outline = o) :
    v.Becomes o (v.joined c seat generation) := by
  have hworkers : (v.monitor.roster.introduce v.room.occupants).workers =
      v.room.occupants.filterMap Occupant.worker? := by
    rw [nobody, Roster.workers_introduce h.members]
    · rfl
    · exact fun _ _ => rfl
  constructor
  case rests =>
    exact ⟨h.watched, h.subscribed, listeners.trans h.hears, h.members, h.workers.introduce _,
      .present seat rfl rfl rfl rfl (Roster.reflects_of_workers h.members hworkers)⟩
  case name => rfl
  case stack => rfl
  case outline => exact outline
  case fresh => exact fun _ => ⟨rfl, hworkers⟩

/-- A scene before and after an undisturbed attempt to enter the room. -/
theorem Rests.tryEnter (h : v.Rests) :
    (v.turn v.monitor.tryEnter).Leads (v.Becomes v.outline.attempt) := by
  cases h.stands with
  | present seat phase place entered =>
    -- who is in the room already does not try
    have hturn : v.turn v.monitor.tryEnter = v := by
      simp [Monitor.tryEnter, phase, Phase.isAway, turn]
    have houtline : v.outline.attempt = v.outline := if_pos entered
    rw [hturn, houtline]
    exact h.leads_self
  | away phase nobody left deaf =>
    rw [turn_tryEnter phase]
    -- what stands against the attempt, in the order in which it is met
    cases hrequest : v.connection.nextRefusal with
    | some refusal =>
      have hask : (v.setMonitor v.monitor.trying).connection.request =
          ({ v.connection with requests := v.connection.requests + 1, nextRefusal := none },
            .error refusal) := by
        simp [Scene.setMonitor, Connection.request, hrequest]
      apply leads_obtaining_refused hask rfl
      have houtline : v.outline.attempt =
          { v.outline with requests := v.connection.requests + 1, refusesRequest := false } := by
        simp [outline, Outline.attempt, left, hrequest]
      rw [houtline]
      exact .here (h.becomes_gone rfl rfl h.members left deaf rfl rfl)
    | none =>
      cases hup : v.connection.isUp with
      | false =>
        have hask : (v.setMonitor v.monitor.trying).connection.request =
            ({ v.connection with requests := v.connection.requests + 1 },
              .error .notConnected) := by
          simp [Scene.setMonitor, Connection.request, hrequest, hup]
        apply leads_obtaining_refused hask rfl
        have houtline : v.outline.attempt =
            { v.outline with requests := v.connection.requests + 1 } := by
          simp [outline, Outline.attempt, left, hrequest, hup]
        rw [houtline]
        exact .here (h.becomes_gone rfl rfl h.members left deaf rfl rfl)
      | true =>
        -- the room is there, so it is up to the room
        have hask : (v.setMonitor v.monitor.trying).connection.request =
            ({ v.connection with requests := v.connection.requests + 1 }, .ok ()) := by
          simp [Scene.setMonitor, Connection.request, hrequest, hup]
        apply leads_obtaining hask h.watched deaf
        intro seat
        cases hentry : v.room.nextRefusal with
        | some refusal =>
          have houtline : v.outline.attempt =
              { v.outline with requests := v.connection.requests + 1, refusesEntry := false } := by
            simp [outline, Outline.attempt, left, hrequest, hup, hentry]
          rw [houtline]
          -- the listener that was added for the attempt is removed again
          refine leads_entering_refused rfl rfl hentry ?_
          have hdeaf : ([(seat.listener, RoomListener.monitor 0 v.monitor.trying.generation)].filter
              (·.1 ≠ seat.listener)) = [] := by
            simp
          exact .here (h.becomes_gone rfl rfl h.members left hdeaf rfl rfl)
        | none =>
          have houtline : v.outline.attempt =
              { v.outline with
                requests := v.connection.requests + 1
                entries := v.room.entries + 1
                isJoined := true } := by
            simp [outline, Outline.attempt, left, hrequest, hup, hentry]
          rw [houtline]
          refine leads_entering rfl rfl hentry left rfl ?_
          exact .here (h.becomes_joined nobody rfl rfl)

/-! ## Going away -/

/-- A scene before and after the monitor goes away undisturbed. -/
theorem Rests.goAway (h : v.Rests) :
    (v.turn v.monitor.goAway).Leads (v.Becomes v.outline.retire) := by
  have hmonitor : v.monitor.goAway.monitor = v.monitor.gone := rfl
  cases h.stands with
  | away phase nobody left deaf =>
    have houtline : v.outline.retire = v.outline := if_neg (by simp [outline, left])
    rw [turn_done (by simp [Monitor.goAway, phase]), hmonitor, houtline]
    exact .here (h.becomes_gone rfl rfl h.members left deaf rfl rfl)
  | present seat phase place entered hears =>
    rw [turn_asking (p := .releasing seat .stopped) (by simp [Monitor.goAway, phase]), hmonitor]
    apply Leads.step
    · exact fun _ shows => shows.step_releasing place
    apply Leads.step fun _ shows => shows.step_replying
    rw [turn_asking (p := .leaving seat .stopped) rfl]
    apply Leads.step
    · exact fun _ shows => shows.step_leaving place
    apply Leads.step fun _ shows => shows.step_replying
    rw [turn_done rfl]
    -- the listener that is gone was the only one, and the room was entered
    have hleave : (v.room.unlisten seat.listener).leave =
        { v.room with listeners := [], isEntered := false, exits := v.room.exits + 1 } := by
      simp [Room.unlisten, Room.leave, hears, entered]
    show ((v.setMonitor v.monitor.gone).setRoom (v.room.unlisten seat.listener).leave).Leads _
    rw [hleave]
    have houtline : v.outline.retire =
        { v.outline with exits := v.room.exits + 1, isJoined := false } := if_pos entered
    rw [houtline]
    exact .here (h.becomes_gone rfl rfl h.members rfl rfl rfl rfl)

end Scene

end WorkerRoster
