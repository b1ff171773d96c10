import WorkerRoster.Monitor

/-!
# The Connection of a Site

A connection that is moved by hand: its registration is set from outside, and its listeners are
told. Each function is what the connection does without interruption.
-/

set_option autoImplicit false

namespace WorkerRoster

/-- Who is called when the registration changes. -/
inductive RegistrationListener where
  /-- A monitor. -/
  | monitor (index : Nat)
  /-- Somebody else. -/
  | outsider (tag : Nat)
  deriving DecidableEq, Repr

/-- A connection. -/
structure Connection where
  /-- Whether there is a registration. -/
  isUp : Bool := false
  /-- The listeners, in the order in which they were added. -/
  listeners : List (ListenerId × RegistrationListener) := []
  /-- What the next request for a room is refused with, if it is. -/
  nextRefusal : Option Refusal := none
  /-- How often a room was requested. -/
  requests : Nat := 0
  deriving Repr

namespace Connection

/-- The registration has a new state. -/
def setState (c : Connection) (state : Registration) : Connection :=
  { c with isUp := state.isUp }

/-- Ask for a room. A refusal that was arranged comes first and is used up. -/
def request (c : Connection) : Connection × Except Refusal Unit :=
  let c := { c with requests := c.requests + 1 }
  match c.nextRefusal with
  | some refusal => ({ c with nextRefusal := none }, .error refusal)
  | none => if c.isUp then (c, .ok ()) else (c, .error .notConnected)

/-- Add a listener. -/
def listen (c : Connection) (id : ListenerId) (l : RegistrationListener) : Connection :=
  { c with listeners := c.listeners ++ [(id, l)] }

/-- Remove a listener, if it is there. -/
def unlisten (c : Connection) (id : ListenerId) : Connection :=
  { c with listeners := c.listeners.filter (·.1 ≠ id) }

/-- Those who are told of a new state. -/
def audience (c : Connection) : List RegistrationListener :=
  c.listeners.map (·.2)

end Connection

end WorkerRoster
