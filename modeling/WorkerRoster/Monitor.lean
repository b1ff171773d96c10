import WorkerRoster.Notice
import WorkerRoster.Settings
import WorkerRoster.Tracking

/-!
# The Monitor

A monitor watches one room: it enters the room while there is a registration, keeps the roster in
step with the members, and leaves when the registration is gone or it is told to stop.

A monitor uses a connection and a room that may call it back while it waits for them, so none of
its calls is one piece. A call runs until it has something to ask of them; what it will do with the
reply is a `Pending`. Between question and reply any other call may begin and end. What a call does
from one question to the next, a `Turn`, is not interrupted.

Every attempt to enter the room has a generation of its own, and the listener it registers in the
room carries it. A notice counts only as long as the generation it came with is the latest one and
the monitor is not away.
-/

set_option autoImplicit false

namespace WorkerRoster

/-! ## State -/

/-- A room, as the connection handed it out. -/
structure RoomRef where
  index : Nat
  deriving DecidableEq, Repr

/-- A listener in a room. -/
structure Seat where
  room : RoomRef
  listener : ListenerId
  deriving DecidableEq, Repr

/-- Where the monitor is. -/
inductive Phase where
  /-- Not in the room, and not about to enter it. -/
  | away
  /-- An attempt to enter the room is under way. -/
  | joining
  /-- In the room. -/
  | present (seat : Seat)
  deriving DecidableEq, Repr

namespace Phase

/-- Whether the monitor is away. -/
def isAway : Phase → Bool
  | .away => true
  | .joining | .present _ => false

/-- The name of a phase. -/
def name : Phase → String
  | .away => "disconnected"
  | .joining => "joining"
  | .present _ => "joined"

end Phase

/-- A monitor. -/
structure Monitor where
  /-- The name of the room it watches. -/
  room : String
  phase : Phase := .away
  /-- A counter that goes up whenever an attempt begins or anything ends, which tells attempts
      apart. -/
  generation : UInt64 := 0
  /-- Whether it wants to hear about the registration. -/
  isSubscribed : Bool := false
  /-- The listener through which it hears about the registration. -/
  subscription : Option ListenerId := none
  roster : Roster := {}
  deriving DecidableEq, Repr

/-! ## Questions and replies -/

/-- Why the monitor leaves a room that it is in. -/
inductive Parting where
  /-- The attempt that entered it is no longer wanted. -/
  | superseded
  /-- The monitor stops watching. -/
  | stopped
  deriving DecidableEq, Repr

/-- What a call waits for, and so what it does next. -/
inductive Pending where
  /-- The number of the listener for the registration. -/
  | subscribing
  /-- That the listener is gone, which is not wanted any more. -/
  | withdrawing (listener : ListenerId)
  /-- Whether there is a registration. -/
  | probing
  /-- That the listener is gone, to stop watching then. -/
  | unsubscribing (listener : ListenerId)
  /-- The room, for an attempt. -/
  | obtaining (generation : UInt64)
  /-- The number of the attempt's listener in the room. -/
  | listening (generation : UInt64) (room : RoomRef)
  /-- That the room lets the attempt in. -/
  | entering (generation : UInt64) (seat : Seat)
  /-- That the listener of an attempt that was not let in is gone. -/
  | retreating (generation : UInt64) (seat : Seat) (refusal : Refusal)
  /-- That the listener is gone, to leave the room then. -/
  | releasing (seat : Seat) (parting : Parting)
  /-- That the room is left. -/
  | leaving (seat : Seat) (parting : Parting)
  deriving DecidableEq, Repr

/-- What a reply to a question is. -/
abbrev Pending.Reply : Pending → Type
  | .subscribing | .listening _ _ => ListenerId
  | .probing => Bool
  | .obtaining _ => Except Refusal RoomRef
  | .entering _ _ => Except Refusal Unit
  | .withdrawing _ | .unsubscribing _ | .retreating _ _ _ | .releasing _ _ | .leaving _ _ => Unit

/-- What is asked of the connection or of the room. -/
inductive Request where
  | addRegistrationListener
  | removeRegistrationListener (listener : ListenerId)
  | isRegistered
  | obtainRoom (name : String)
  | addRoomListener (room : RoomRef) (generation : UInt64)
  | enter (room : RoomRef)
  | removeRoomListener (room : RoomRef) (listener : ListenerId)
  | leave (room : RoomRef)
  deriving DecidableEq, Repr

/-- What a monitor of a room asks when it waits. -/
def Pending.request (room : String) : Pending → Request
  | .subscribing => .addRegistrationListener
  | .withdrawing listener | .unsubscribing listener => .removeRegistrationListener listener
  | .probing => .isRegistered
  | .obtaining _ => .obtainRoom room
  | .listening generation room => .addRoomListener room generation
  | .entering _ seat => .enter seat.room
  | .retreating _ seat _ | .releasing seat _ => .removeRoomListener seat.room seat.listener
  | .leaving seat _ => .leave seat.room

/-- What a call does without interruption: the monitor after it, what is to be done outside, and
    what the call waits for then, if it is not finished. -/
structure Turn where
  monitor : Monitor
  effects : List Effect := []
  pending : Option Pending := none

/-- What a monitor can be told. -/
inductive Call where
  /-- Begin to watch. -/
  | init
  /-- Stop watching for good. -/
  | dispose
  /-- The state of the registration is a new one. -/
  | registration (state : Registration)
  /-- A notice came through the listener of an attempt. -/
  | notice (generation : UInt64) (n : Notice)
  deriving DecidableEq, Repr

namespace Monitor

/-! ## Making one -/

/-- A monitor for a room, whose name must not be blank. -/
def create (room : String) : Except Incident Monitor :=
  if Text.isBlank room then .error (.invalidRoomName room) else .ok { room }

/-- The entry about settings without a room. -/
def disabledEntry : Entry :=
  .write .info "no brewery room configured, worker detection disabled" []

/-- A monitor for the room that is set, none if there is none. -/
def ofSettings (s : DetectionSettings) : Option Monitor × List Effect :=
  match s.roomName? with
  | none => (none, [.note disabledEntry])
  | some room => ((create room).toOption, [])

/-! ## Entries -/

/-- An entry that names the room. -/
def roomEntry (m : Monitor) (level : Level) (message : String)
    (fields : List (String × Recorded)) : Effect :=
  .note (.write level message (("room", .shown m.room) :: fields))

/-- What is to be done about workers that are gone together: each is announced, and then there is an
    entry about how many they were, unless there were none. -/
def clearing (m : Monitor) (gone : Roster.Dismissed) (message : String) : List Effect :=
  gone.effects ++
    if 0 < gone.count then [m.roomEntry .info message [("drained", .whole gone.count)]] else []

/-! ## Entering the room -/

/-- Whether an attempt is still the one that is under way. -/
def awaits (m : Monitor) (generation : UInt64) : Bool :=
  m.generation = generation && m.phase = .joining

/-- Try to enter the room, unless the monitor is in it or trying already. -/
def tryEnter (m : Monitor) : Turn :=
  if m.phase.isAway then
    let generation := m.generation + 1
    { monitor := { m with phase := .joining, generation }, pending := some (.obtaining generation) }
  else
    { monitor := m, effects := [m.roomEntry .debug "room already joined or joining" []] }

/-- An attempt was let in. If it is no longer the one under way, the room is left again. -/
def arrive (m : Monitor) (generation : UInt64) (seat : Seat) : Turn :=
  if m.awaits generation then
    { monitor := { m with phase := .present seat },
      effects := [m.roomEntry .info "joined brewery room" []] }
  else
    { monitor := m, pending := some (.releasing seat .superseded) }

/-- The entry about an attempt that was not let in. -/
def failureEntry (m : Monitor) (refusal : Refusal) : Effect :=
  let incident := Incident.joinFailed m.room refusal
  m.roomEntry .error "failed to join brewery room"
    [("error", .shown incident.message), ("error_kind", .text incident.category),
     ("source_kind", .text refusal.kind)]

/-- An attempt was not let in. If it is the one under way, the monitor is away again, and everybody
    met meanwhile is gone. -/
def fail (m : Monitor) (generation : UInt64) (refusal : Refusal) : Turn :=
  let failure := m.failureEntry refusal
  if m.awaits generation then
    -- members may have been introduced before the refusal; a new generation shuts the listener up
    let gone := m.roster.dismiss
    { monitor := { m with phase := .away, generation := m.generation + 1, roster := gone.roster },
      effects := failure :: m.clearing gone "cleared workers seen during failed join" }
  else
    { monitor := m, effects := [failure] }

/-! ## Leaving the room -/

/-- Stop watching the room: everybody is gone, and the room is left if the monitor is in it. -/
def goAway (m : Monitor) : Turn :=
  let gone := m.roster.dismiss
  { monitor := { m with phase := .away, generation := m.generation + 1, roster := gone.roster },
    effects := m.clearing gone "cleared known workers",
    pending :=
      match m.phase with
      | .present seat => some (.releasing seat .stopped)
      | .away | .joining => none }

/-- The entry about a room that was left. -/
def partingEntry (m : Monitor) : Parting → Effect
  | .superseded => m.roomEntry .debug "join superseded, left room again" []
  | .stopped => m.roomEntry .info "left brewery room" []

/-! ## Calls -/

/-- Whether a notice of a generation still counts. -/
def heeds (m : Monitor) (generation : UInt64) : Bool :=
  m.generation = generation && !m.phase.isAway

/-- An entry about a notice. -/
def noticeEntry (n : Notice) (message name value : String) : Effect :=
  .note (.write .debug message
    [("worker", .shown n.occupant.id.address), (name, .shown value)])

/-- A notice about a member, which came through the listener of an attempt. -/
def hear (m : Monitor) (generation : UInt64) (n : Notice) : Turn :=
  match n.status? with
  | none =>
    { monitor := m,
      effects := [noticeEntry n "presence without worker status" "kind" n.kind.name] }
  | some status =>
    if m.heeds generation then
      let seen := m.roster.track n.occupant.id status
      { monitor := { m with roster := seen.roster },
        effects :=
          seen.effects ++ [noticeEntry n "presence processed" "outcome" seen.outcome.name] }
    else
      { monitor := m,
        effects := [noticeEntry n "dropping notification from a left room" "kind" n.kind.name] }

/-- Begin a call. -/
def begin (m : Monitor) : Call → Turn
  | .init =>
    if m.isSubscribed then
      { monitor := m, effects := [.note (.write .debug "detector already initialized" [])] }
    else
      { monitor := { m with isSubscribed := true }, pending := some .subscribing }
  | .dispose =>
    match m.subscription with
    | some listener =>
      -- the number is given up before the question, so nobody else removes the listener again
      { monitor := { m with isSubscribed := false, subscription := none },
        pending := some (.unsubscribing listener) }
    | none => goAway { m with isSubscribed := false }
  | .registration state =>
    if state.isUp then m.tryEnter
    else if state.isDown then m.goAway
    else
      { monitor := m,
        effects := [m.roomEntry .debug "ignoring transport state" [("state", .shown state.name)]] }
  | .notice generation n => m.hear generation n

/-- Go on with a call that has its reply. -/
def resume (m : Monitor) : (p : Pending) → p.Reply → Turn
  | .subscribing, listener =>
    -- it may have been told to stop while it waited for the number
    if m.isSubscribed then
      { monitor := { m with subscription := some listener }, pending := some .probing }
    else
      { monitor := m, pending := some (.withdrawing listener) }
  | .withdrawing _, () => { monitor := m }
  | .probing, isUp => if isUp then m.tryEnter else { monitor := m }
  | .unsubscribing _, () => m.goAway
  | .obtaining generation, .ok room =>
    { monitor := m, pending := some (.listening generation room) }
  | .obtaining generation, .error refusal => m.fail generation refusal
  | .listening generation room, listener =>
    { monitor := m, pending := some (.entering generation ⟨room, listener⟩) }
  | .entering generation seat, .ok () => m.arrive generation seat
  | .entering generation seat, .error refusal =>
    { monitor := m, pending := some (.retreating generation seat refusal) }
  | .retreating generation _ refusal, () => m.fail generation refusal
  | .releasing seat parting, () => { monitor := m, pending := some (.leaving seat parting) }
  | .leaving _ parting, () => { monitor := m, effects := [m.partingEntry parting] }

/-! ## Questions about it -/

/-- The first idle worker. -/
def select? (m : Monitor) : Option WorkerId :=
  (firstIdle? m.roster.workers).map (·.id)

/-- Whether any worker is known. -/
def isAnyConnected (m : Monitor) : Bool :=
  !m.roster.isEmpty

/-- The status of a worker, if it is known. -/
def statusOf? (m : Monitor) (id : WorkerId) : Option Status :=
  (m.roster.find? id).map (·.status)

end Monitor

end WorkerRoster
