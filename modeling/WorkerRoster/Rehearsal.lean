import WorkerRoster.Broadcast
import WorkerRoster.Site

/-!
# Rehearsals

A rehearsal plays a script at a site, one step after the other, and lets every step come to its end.
A script can arrange interruptions: steps that are played once, in the middle of whatever a monitor
is doing, when it next asks a certain question or gets the reply. Announcements go to a broadcast
bus, and everything that is written down is kept.
-/

set_option autoImplicit false

namespace WorkerRoster

/-! ## Scripts -/

/-- Whether something is about to be done or has just been done. -/
inductive Moment where
  | before
  | after
  deriving DecidableEq, Repr

/-- The questions that monitors ask. -/
inductive Act where
  | addRegistrationListener
  | removeRegistrationListener
  | isRegistered
  | obtainRoom
  | addRoomListener
  | enter
  | removeRoomListener
  | leave
  deriving DecidableEq, Repr

/-- A point at which a monitor can be interrupted. -/
structure Point where
  act : Act
  moment : Moment
  deriving DecidableEq, Repr

/-- What is asked by a monitor that waits for something. -/
def Pending.act : Pending → Act
  | .subscribing => .addRegistrationListener
  | .withdrawing _ | .unsubscribing _ => .removeRegistrationListener
  | .probing => .isRegistered
  | .obtaining _ => .obtainRoom
  | .listening _ _ => .addRoomListener
  | .entering _ _ => .enter
  | .retreating _ _ _ | .releasing _ _ => .removeRoomListener
  | .leaving _ _ => .leave

/-- The point that a frame stands at, if it stands at one. -/
def Frame.point? : Frame → Option Point
  | .asking _ p => some ⟨p.act, .before⟩
  | .replying _ p _ => some ⟨p.act, .after⟩
  | .telling _ _ | .delivering _ _ | .introducing _ _ | .outside => none

/-- A step of a script. Monitors, listeners, receivers and recorders are named by their number. -/
inductive Step where
  | newMonitor (room : String)
  | newMonitorOf (settings : DetectionSettings)
  | init (monitor : Nat)
  | dispose (monitor : Nat)
  | drop (monitor : Nat)
  | select (monitor : Nat)
  | isAnyConnected (monitor : Nat)
  | workers (monitor : Nat)
  | statusOf (monitor : Nat) (id : WorkerId)
  | phase (monitor : Nat)
  | roomName (monitor : Nat)
  /-- Keep the workers that a monitor knows now. -/
  | keep (monitor : Nat)
  | kept (index : Nat)
  | setState (state : Registration)
  | refuseNextRequest (refusal : Refusal)
  | roomExists (room : String)
  | requestRoom (room : String)
  | provideRoom (room : String)
  | arrive (room : String) (id : WorkerId) (presence : Option Presence)
  | update (room : String) (id : WorkerId) (presence : Presence)
  | depart (room : String) (id : WorkerId) (kind : NoticeKind)
  /-- Deliver any notice, whatever the room knows. -/
  | notify (room : String) (n : Notice)
  | refuseNextEntry (room : String) (refusal : Refusal)
  | enterRoom (room : String)
  | leaveRoom (room : String)
  | occupants (room : String)
  | recordState
  | recordRoom (room : String)
  | unrecordState (recorder : Nat)
  | unrecordRoom (recorder : Nat) (room : String)
  /-- Call a listener that a monitor ever added in a room. -/
  | lateNotice (listener : Nat) (n : Notice)
  /-- Call a listener that a monitor ever added for the registration. -/
  | lateState (listener : Nat) (state : Registration)
  | subscribe
  | unsubscribe (receiver : Nat)
  | subscribers
  | receive (receiver : Nat)
  | receiveAll (receiver : Nat)
  /-- Arrange an interruption: labelled steps, and how the interrupted question is refused. -/
  | interrupt (point : Point) (steps : List (String × Step)) (refusal : Option Refusal)
  deriving Inhabited

/-- An interruption that has been arranged. -/
structure Interruption where
  point : Point
  steps : List (String × Step)
  refusal : Option Refusal

/-- What a step answers. -/
inductive Answer where
  | nothing
  | count (n : Nat)
  | flag (b : Bool)
  | text (s : String)
  | chosen (id : Option WorkerId)
  | workers (ws : List Worker)
  | status (s : Option Status)
  | occupants (os : List Occupant)
  | received (r : Broadcast.Received)
  | receivedAll (rs : List Broadcast.Received)
  | silent (s : Broadcast.Silence)
  | incident (i : Incident)
  | refused (r : Refusal)
  /-- A room was handed out. -/
  | handedOut (room : String)
  /-- There is nothing to watch. -/
  | disabled
  | noMonitor
  | noListener

/-- What an interrupting step did. -/
structure Aside where
  point : Point
  label : String
  answer : Answer
  /-- The phase of every monitor then, none for those nobody holds. -/
  phases : List (Option String)

/-- A rehearsal. -/
structure Rehearsal where
  site : Site := {}
  bus : Broadcast
  interruptions : List Interruption := []
  /-- The listeners of the recorders, by number. -/
  recorders : List ListenerId := []
  kept : List (List Worker) := []
  /-- What was written down in this step. -/
  journal : Journal := []
  /-- What interruptions did in this step, in the order in which they ended. -/
  asides : List Aside := []

namespace Rehearsal

/-! ## Parts -/

/-- Carry out what monitors want to be done. -/
def flush (r : Rehearsal) : Rehearsal :=
  let (bus, deeds) := Broadcast.bus.performAll r.bus r.site.outbox
  { r with
    bus, journal := r.journal ++ entries deeds, site := { r.site with outbox := [] } }

/-- Change the site. -/
def onSite (r : Rehearsal) (f : Site → Site) : Rehearsal :=
  { r with site := f r.site }

/-- Change the site at a room, which is made if there is none of the name. -/
def inRoom (r : Rehearsal) (name : String) (f : Site → RoomRef → Site) : Rehearsal :=
  let (site, room) := r.site.provideRoom name
  { r with site := f site room }

/-- The phase of every monitor, none for those nobody holds. -/
def phases (r : Rehearsal) : List (Option String) :=
  (List.range r.site.monitors.length).map fun i => (r.site.monitor? i).map (·.phase.name)

/-- Ask a monitor something. -/
def ask (r : Rehearsal) (index : Nat) (f : Monitor → Answer) : Rehearsal × Answer :=
  (r, (r.site.monitor? index).elim .noMonitor f)

/-- Call a monitor. -/
def call (r : Rehearsal) (index : Nat) (c : Call) : Rehearsal × Answer :=
  match r.site.monitor? index with
  | some _ => (r.onSite (·.call index c), .nothing)
  | none => (r, .noMonitor)

/-- Add a monitor, if there is one. -/
def addMonitor (r : Rehearsal) (m : Monitor) : Rehearsal × Answer :=
  let (site, index) := r.site.addMonitor m
  ({ r with site }, .count index)

/-- Add a recorder. -/
def addRecorder (r : Rehearsal) (listen : Site → Nat → Site × ListenerId) : Rehearsal × Answer :=
  let index := r.recorders.length
  let (site, id) := listen r.site index
  ({ r with site, recorders := r.recorders ++ [id] }, .count index)

/-! ## Steps -/

/-- Begin a step: what it does at once, and what it answers. What it sets going is left on the
    site's stack. -/
def begin (r : Rehearsal) : Step → Rehearsal × Answer
  | .newMonitor room =>
    match Monitor.create room with
    | .ok m => r.addMonitor m
    | .error incident => (r, .incident incident)
  | .newMonitorOf settings =>
    let (m, effects) := Monitor.ofSettings settings
    let r := r.onSite fun s => { s with outbox := s.outbox ++ effects }
    m.elim (r, .disabled) r.addMonitor
  | .init d => r.call d .init
  | .dispose d => r.call d .dispose
  | .drop d =>
    match r.site.monitor? d with
    | some _ => (r.onSite (·.dropMonitor d), .nothing)
    | none => (r, .noMonitor)
  | .select d => r.ask d fun m => .chosen m.select?
  | .isAnyConnected d => r.ask d fun m => .flag m.isAnyConnected
  | .workers d => r.ask d fun m => .workers m.roster.workers
  | .statusOf d id => r.ask d fun m => .status (m.statusOf? id)
  | .phase d => r.ask d fun m => .text m.phase.name
  | .roomName d => r.ask d fun m => .text m.room
  | .keep d =>
    match r.site.monitor? d with
    | some m => ({ r with kept := r.kept ++ [m.roster.workers] }, .count r.kept.length)
    | none => (r, .noMonitor)
  | .kept i => (r, .workers (r.kept.getD i []))
  | .setState state => (r.onSite (·.setState state), .nothing)
  | .refuseNextRequest refusal => (r.onSite (·.refuseNextRequest refusal), .nothing)
  | .roomExists name => (r, .flag (r.site.findRoom? name).isSome)
  | .requestRoom name =>
    match r.site.requestRoom name with
    | (site, .ok _) => ({ r with site }, .handedOut name)
    | (site, .error refusal) => ({ r with site }, .refused refusal)
  | .provideRoom name => (r.inRoom name fun s _ => s, .text name)
  | .arrive name id p => (r.inRoom name fun s room => s.happen room (·.arrive id p), .nothing)
  | .update name id p => (r.inRoom name fun s room => s.happen room (·.update id p), .nothing)
  | .depart name id kind => (r.inRoom name fun s room => s.happen room (·.depart id kind), .nothing)
  | .notify name n => (r.inRoom name fun s room => s.notify room n, .nothing)
  | .refuseNextEntry name refusal =>
    (r.inRoom name fun s room => s.refuseNextEntry room refusal, .nothing)
  | .enterRoom name =>
    let (site, room) := r.site.provideRoom name
    match site.enterRoom room with
    | (site, .ok ()) => ({ r with site }, .nothing)
    | (site, .error refusal) => ({ r with site }, .refused refusal)
  | .leaveRoom name => (r.inRoom name fun s room => s.leaveRoom room, .nothing)
  | .occupants name =>
    let (site, room) := r.site.provideRoom name
    ({ r with site }, .occupants ((site.rooms[room.index]?.map (·.occupants)).getD []))
  | .recordState => r.addRecorder fun s tag => s.listenToRegistration tag
  | .recordRoom name =>
    r.addRecorder fun s tag =>
      let (s, room) := s.provideRoom name
      s.listenToRoom room tag
  | .unrecordState i =>
    match r.recorders[i]? with
    | some id => (r.onSite (·.unlistenToRegistration id), .nothing)
    | none => (r, .nothing)
  | .unrecordRoom i name =>
    match r.recorders[i]? with
    | some id => (r.inRoom name fun s room => s.unlistenToRoom room id, .nothing)
    | none => (r.inRoom name fun s _ => s, .nothing)
  | .lateNotice i n =>
    match r.site.roomListeners[i]? with
    | some l => (r.onSite (·.deliver n l), .nothing)
    | none => (r, .noListener)
  | .lateState i state =>
    match r.site.registrationListeners[i]? with
    | some l => (r.onSite (·.tell state l), .nothing)
    | none => (r, .noListener)
  | .subscribe =>
    let (bus, receiver) := r.bus.subscribe
    ({ r with bus }, .count receiver)
  | .unsubscribe i => ({ r with bus := r.bus.unsubscribe i }, .flag (r.bus.isSubscribed i))
  | .subscribers => (r, .count r.bus.receiverCount)
  | .receive i =>
    match r.bus.receive i with
    | (bus, .ok got) => ({ r with bus }, .received got)
    | (bus, .error silence) => ({ r with bus }, .silent silence)
  | .receiveAll i =>
    match r.bus.receiveAll i with
    | (bus, .ok got) => ({ r with bus }, .receivedAll got)
    | (bus, .error silence) => ({ r with bus }, .silent silence)
  | .interrupt point steps refusal =>
    ({ r with interruptions := r.interruptions ++ [⟨point, steps, refusal⟩] }, .nothing)

/-! ## Playing -/

/-- The oldest interruption that is arranged for a point, and the others. -/
def takeInterruption? (point : Point) :
    List Interruption → Option (Interruption × List Interruption)
  | [] => none
  | i :: rest =>
    if i.point = point then some (i, rest)
    else (takeInterruption? point rest).map fun (found, others) => (found, i :: others)

/-- The interruption that is due where the site stands. -/
def due? (r : Rehearsal) : Option (Interruption × List Interruption) :=
  match r.site.stack.head?.bind Frame.point? with
  | some point => takeInterruption? point r.interruptions
  | none => none

/-- Go on until no more than `base` frames are under way, with at most `fuel` steps of the site and
    interruptions nested in each other. -/
def settle : Nat → Nat → Rehearsal → Rehearsal
  | 0, _, r => r
  | fuel + 1, base, r =>
    if r.site.stack.length ≤ base then r
    else
      match r.due? with
      | none => settle fuel base (r.onSite (·.step none)).flush
      | some (i, others) =>
        -- the interruption is used up before it begins, so it cannot interrupt itself
        let r := i.steps.foldl
          (fun r (label, step) =>
            let height := r.site.stack.length
            let (r, answer) := r.begin step
            let r := settle fuel height r.flush
            { r with asides := r.asides ++ [⟨i.point, label, answer, r.phases⟩] })
          { r with interruptions := others }
        settle fuel base (r.onSite (·.step i.refusal)).flush

/-- Play a step to its end, with enough fuel for a script of some size. -/
def play (r : Rehearsal) (fuel : Nat) (step : Step) : Rehearsal × Answer :=
  let r := { r with journal := [], asides := [], site := { r.site with heard := [] } }
  let (r, answer) := r.begin step
  (settle fuel 0 r.flush, answer)

/-! ## Fuel -/

mutual

/-- How many steps there are in a step, those of its interruptions included. -/
def stepSize : Step → Nat
  | .interrupt _ steps _ => 1 + stepsSize steps
  | _ => 1

/-- How many steps there are in steps. -/
def stepsSize : List (String × Step) → Nat
  | [] => 0
  | (_, s) :: rest => stepSize s + stepsSize rest

end

/-- Fuel for a script with `n` steps: at no time are there more listeners, members or nested
    interruptions than steps, and a listener sets going at most sixteen frames and one delivery for
    every member and listener. -/
def fuelFor (n : Nat) : Nat :=
  let m := n + 2
  16 * (m * m * m * m)

end Rehearsal

end WorkerRoster
