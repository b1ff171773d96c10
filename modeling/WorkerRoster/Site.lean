import WorkerRoster.Site.Connection
import WorkerRoster.Site.Room

/-!
# A Site

A site is one connection, its rooms, and the monitors that use them, all in one place: a question
of a monitor is answered by the connection or the room itself, and a listener is called before the
caller goes on. What is under way is a stack of frames, the innermost first. A step works on the
innermost frame only.

There are places where somebody else may do anything: around every question of a monitor, and while
a listener that belongs to an outsider is called. At such a place the stack stands still until the
next step, and new calls go on top of it.
-/

set_option autoImplicit false

namespace WorkerRoster

/-! ## Frames -/

/-- Something that is under way. -/
inductive Frame where
  /-- A monitor is about to ask. -/
  | asking (monitor : Nat) (p : Pending)
  /-- A monitor is about to get a reply. -/
  | replying (monitor : Nat) (p : Pending) (reply : p.Reply)
  /-- A new state of the registration is being told. -/
  | telling (targets : List RegistrationListener) (state : Registration)
  /-- A notice is being delivered. -/
  | delivering (targets : List RoomListener) (n : Notice)
  /-- The members of a room that was entered are being announced. -/
  | introducing (room : RoomRef) (waiting : List Occupant)
  /-- A listener of an outsider is called. -/
  | outside

/-- What an outsider's listener was called with. -/
inductive Heard where
  | state (tag : Nat) (state : Registration)
  | notice (tag : Nat) (n : Notice)
  deriving DecidableEq, Repr

/-- A monitor at a site. -/
structure Post where
  monitor : Monitor
  /-- Whether somebody still holds the monitor. Its listeners do not keep it. -/
  isHeld : Bool := true
  deriving Repr

/-- A site. -/
structure Site where
  connection : Connection := {}
  /-- The rooms there are, in the order in which they were made; no name is there twice. -/
  rooms : List Room := []
  monitors : List Post := []
  /-- The number for the next listener. -/
  nextListener : ListenerId := .first
  /-- What is under way, the innermost first. -/
  stack : List Frame := []
  /-- What monitors want to be done outside, in order. -/
  outbox : List Effect := []
  /-- What outsiders heard, in order. -/
  heard : List Heard := []
  /-- Every listener for the registration that a monitor ever added. -/
  registrationListeners : List RegistrationListener := []
  /-- Every listener in a room that a monitor ever added. -/
  roomListeners : List RoomListener := []

namespace Site

/-! ## Parts -/

/-- The room of a name. -/
def findRoom? (s : Site) (name : String) : Option RoomRef :=
  (s.rooms.findIdx? (·.name = name)).map RoomRef.mk

/-- The room of a name, which is made if there is none. -/
def provideRoom (s : Site) (name : String) : Site × RoomRef :=
  match s.findRoom? name with
  | some room => (s, room)
  | none => ({ s with rooms := s.rooms ++ [{ name }] }, ⟨s.rooms.length⟩)

/-- Change a room. -/
def changeRoom (s : Site) (room : RoomRef) (f : Room → Room) : Site :=
  { s with rooms := s.rooms.modify room.index f }

/-- Those to whom a notice in a room goes out now. -/
def roomAudience (s : Site) (room : RoomRef) : List RoomListener :=
  match s.rooms[room.index]? with
  | some r => r.audience
  | none => []

/-- Put a frame on the stack. -/
def push (s : Site) (f : Frame) : Site :=
  { s with stack := f :: s.stack }

/-- A number for a new listener. -/
def takeListener (s : Site) : Site × ListenerId :=
  ({ s with nextListener := s.nextListener.next }, s.nextListener)

/-! ## Calls of monitors -/

/-- Whether a frame belongs to a call of a monitor. -/
def Frame.isOf (index : Nat) : Frame → Bool
  | .asking d _ | .replying d _ _ => d = index
  | .telling _ _ | .delivering _ _ | .introducing _ _ | .outside => false

/-- Whether a monitor is still there: somebody holds it, or one of its calls is under way. -/
def isThere (s : Site) (index : Nat) : Bool :=
  match s.monitors[index]? with
  | some post => post.isHeld || s.stack.any (Frame.isOf index)
  | none => false

/-- Remember a listener that a monitor is about to add. -/
def remember (s : Site) (index : Nat) : Pending → Site
  | .subscribing => { s with registrationListeners := s.registrationListeners ++ [.monitor index] }
  | .listening generation _ =>
    { s with roomListeners := s.roomListeners ++ [.monitor index generation] }
  | _ => s

/-- Take over what a monitor did in a turn. -/
def apply (s : Site) (index : Nat) (t : Turn) : Site :=
  let s :=
    { s with
      monitors := s.monitors.modify index fun post => { post with monitor := t.monitor },
      outbox := s.outbox ++ t.effects }
  match t.pending with
  | some p => (s.remember index p).push (.asking index p)
  | none => s

/-- Begin a call of a monitor. -/
def call (s : Site) (index : Nat) (c : Call) : Site :=
  match s.monitors[index]? with
  | some post => s.apply index (post.monitor.begin c)
  | none => s

/-- Go on with a call of a monitor. -/
def resume (s : Site) (index : Nat) (p : Pending) (reply : p.Reply) : Site :=
  match s.monitors[index]? with
  | some post => s.apply index (post.monitor.resume p reply)
  | none => s

/-- Call a listener with a new state. -/
def tell (s : Site) (state : Registration) : RegistrationListener → Site
  | .monitor index => if s.isThere index then s.call index (.registration state) else s
  | .outsider tag => ({ s with heard := s.heard ++ [Heard.state tag state] }).push .outside

/-- Call a listener with a notice. -/
def deliver (s : Site) (n : Notice) : RoomListener → Site
  | .monitor index generation =>
    if s.isThere index then s.call index (.notice generation n) else s
  | .outsider tag => ({ s with heard := s.heard ++ [Heard.notice tag n] }).push .outside

/-! ## Answering questions -/

/-- Answer a question of a monitor. A question that is refused out of hand never reaches whom it was
    put to; only a request for a room and an attempt to enter can be refused. -/
def answer (s : Site) (index : Nat) (refused : Option Refusal) : Pending → Site
  | .subscribing =>
    let (s, id) := s.takeListener
    let s := { s with connection := s.connection.listen id (.monitor index) }
    s.push (.replying index .subscribing id)
  | .withdrawing id =>
    ({ s with connection := s.connection.unlisten id }).push (.replying index (.withdrawing id) ())
  | .unsubscribing id =>
    ({ s with connection := s.connection.unlisten id }).push
      (.replying index (.unsubscribing id) ())
  | .probing => s.resume index .probing s.connection.isUp
  | .obtaining generation =>
    match refused with
    | some refusal => s.resume index (.obtaining generation) (.error refusal)
    | none =>
      match s.connection.request with
      | (connection, .error refusal) =>
        ({ s with connection }).resume index (.obtaining generation) (.error refusal)
      | (connection, .ok ()) =>
        match s.monitors[index]? with
        | some post =>
          let (s, room) := ({ s with connection }).provideRoom post.monitor.room
          s.push (.replying index (.obtaining generation) (.ok room))
        | none => { s with connection }
  | .listening generation room =>
    let (s, id) := s.takeListener
    let s := s.changeRoom room (·.listen id (.monitor index generation))
    s.push (.replying index (.listening generation room) id)
  | .entering generation seat =>
    match refused with
    | some refusal => s.resume index (.entering generation seat) (.error refusal)
    | none =>
      match s.rooms[seat.room.index]? with
      | some room =>
        match room.enter with
        | (room, .error refusal) =>
          (s.changeRoom seat.room fun _ => room).resume index (.entering generation seat)
            (.error refusal)
        | (room, .ok occupants) =>
          -- the reply comes when all members have been introduced
          ((s.changeRoom seat.room fun _ => room).push
            (.replying index (.entering generation seat) (.ok ()))).push
            (.introducing seat.room occupants)
      | none => s
  | .retreating generation seat refusal =>
    (s.changeRoom seat.room (·.unlisten seat.listener)).push
      (.replying index (.retreating generation seat refusal) ())
  | .releasing seat parting =>
    (s.changeRoom seat.room (·.unlisten seat.listener)).push
      (.replying index (.releasing seat parting) ())
  | .leaving seat parting =>
    (s.changeRoom seat.room Room.leave).push (.replying index (.leaving seat parting) ())

/-- Hand a reply to a monitor. The room or the leave to enter that was granted can still be refused
    on the way back. -/
def reply (s : Site) (index : Nat) (refused : Option Refusal) :
    (p : Pending) → p.Reply → Site
  | .obtaining generation, r =>
    s.resume index (.obtaining generation) (refused.elim r .error)
  | .entering generation seat, r =>
    s.resume index (.entering generation seat) (refused.elim r .error)
  | p, r => s.resume index p r

/-! ## Steps -/

/-- Work on the innermost frame. -/
def step (s : Site) (refused : Option Refusal) : Site :=
  match s.stack with
  | [] => s
  | .asking index p :: rest => ({ s with stack := rest }).answer index refused p
  | .replying index p r :: rest => ({ s with stack := rest }).reply index refused p r
  | .telling [] _ :: rest => { s with stack := rest }
  | .telling (l :: targets) state :: rest =>
    ({ s with stack := .telling targets state :: rest }).tell state l
  | .delivering [] _ :: rest => { s with stack := rest }
  | .delivering (l :: targets) n :: rest =>
    ({ s with stack := .delivering targets n :: rest }).deliver n l
  | .introducing _ [] :: rest => { s with stack := rest }
  | .introducing room (o :: waiting) :: rest =>
    let s := { s with stack := .introducing room waiting :: rest }
    -- whoever listens now, and only if the room has not been left meanwhile
    s.push (.delivering (s.roomAudience room) ⟨.joined, o⟩)
  | .outside :: rest => { s with stack := rest }

/-! ## What can be done from outside -/

/-- Set the state of the registration, and tell the listeners there are. -/
def setState (s : Site) (state : Registration) : Site :=
  ({ s with connection := s.connection.setState state }).push
    (.telling s.connection.audience state)

/-- Arrange a refusal of the next request for a room. -/
def refuseNextRequest (s : Site) (refusal : Refusal) : Site :=
  { s with connection := { s.connection with nextRefusal := some refusal } }

/-- Ask the connection for a room. -/
def requestRoom (s : Site) (name : String) : Site × Except Refusal RoomRef :=
  match s.connection.request with
  | (connection, .error refusal) => ({ s with connection }, .error refusal)
  | (connection, .ok ()) =>
    let (s, room) := ({ s with connection }).provideRoom name
    (s, .ok room)

/-- Deliver a notice to those who listen in a room. -/
def notify (s : Site) (room : RoomRef) (n : Notice) : Site :=
  s.push (.delivering (s.roomAudience room) n)

/-- Something happens to a member of a room, of which a notice goes out. -/
def happen (s : Site) (room : RoomRef) (f : Room → Room × Notice) : Site :=
  match s.rooms[room.index]? with
  | some r =>
    let (r, n) := f r
    (s.changeRoom room fun _ => r).notify room n
  | none => s

/-- Arrange a refusal of the next attempt to enter a room. -/
def refuseNextEntry (s : Site) (room : RoomRef) (refusal : Refusal) : Site :=
  s.changeRoom room fun r => { r with nextRefusal := some refusal }

/-- Enter a room. -/
def enterRoom (s : Site) (room : RoomRef) : Site × Except Refusal Unit :=
  match s.rooms[room.index]? with
  | some r =>
    match r.enter with
    | (r, .error refusal) => (s.changeRoom room fun _ => r, .error refusal)
    | (r, .ok occupants) =>
      ((s.changeRoom room fun _ => r).push (.introducing room occupants), .ok ())
  | none => (s, .ok ())

/-- Leave a room. -/
def leaveRoom (s : Site) (room : RoomRef) : Site :=
  s.changeRoom room Room.leave

/-- Add an outsider's listener for the registration. -/
def listenToRegistration (s : Site) (tag : Nat) : Site × ListenerId :=
  let (s, id) := s.takeListener
  ({ s with connection := s.connection.listen id (.outsider tag) }, id)

/-- Add an outsider's listener in a room. -/
def listenToRoom (s : Site) (room : RoomRef) (tag : Nat) : Site × ListenerId :=
  let (s, id) := s.takeListener
  (s.changeRoom room (·.listen id (.outsider tag)), id)

/-- Remove a listener for the registration. -/
def unlistenToRegistration (s : Site) (id : ListenerId) : Site :=
  { s with connection := s.connection.unlisten id }

/-- Remove a listener in a room. -/
def unlistenToRoom (s : Site) (room : RoomRef) (id : ListenerId) : Site :=
  s.changeRoom room (·.unlisten id)

/-- Add a monitor. -/
def addMonitor (s : Site) (m : Monitor) : Site × Nat :=
  ({ s with monitors := s.monitors ++ [{ monitor := m }] }, s.monitors.length)

/-- Let go of a monitor. -/
def dropMonitor (s : Site) (index : Nat) : Site :=
  { s with monitors := s.monitors.modify index fun post => { post with isHeld := false } }

/-- The monitor of an index, if somebody holds it. -/
def monitor? (s : Site) (index : Nat) : Option Monitor :=
  match s.monitors[index]? with
  | some post => if post.isHeld then some post.monitor else none
  | none => none

end Site

end WorkerRoster
