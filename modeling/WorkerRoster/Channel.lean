import WorkerRoster.Text.Quoted

/-!
# The Channel to the Room

What the connection and the room tell whoever uses them: the state of the registration with the
server, why a room was refused, and the number under which a listener is known.
-/

set_option autoImplicit false

namespace WorkerRoster

/-! ## Registration -/

/-- The state of the registration with the server. -/
inductive Registration where
  | registering
  | registered
  | failed
  | unregistered
  deriving DecidableEq, Repr

namespace Registration

/-- Whether rooms can be entered in this state. -/
def isUp : Registration → Bool
  | .registered => true
  | _ => false

/-- Whether this state ends a registration there was before. -/
def isDown : Registration → Bool
  | .unregistered | .failed => true
  | _ => false

/-- The name of the state in the journal. -/
def name : Registration → String
  | .registering => "Registering"
  | .registered => "Registered"
  | .failed => "ConnectionFailed"
  | .unregistered => "Unregistered"

end Registration

/-! ## Refusals -/

/-- Why a room could not be had or entered. -/
inductive Refusal where
  /-- The connection does not hand out the room. -/
  | creation (reason : String)
  /-- The room does not let anyone in. -/
  | entry (reason : String)
  /-- The connection knows no rooms. -/
  | notSupported
  /-- There is no registration. -/
  | notConnected
  deriving DecidableEq, Repr

namespace Refusal

/-- The kind of refusal, in one word. -/
def kind : Refusal → String
  | .creation _ => "create_rejected"
  | .entry _ => "join_rejected"
  | .notSupported => "not_supported"
  | .notConnected => "not_connected"

/-- The wording of a refusal. -/
def message : Refusal → String
  | .creation reason => "room creation rejected: " ++ reason
  | .entry reason => "join rejected: " ++ reason
  | .notSupported => "presence rooms not supported by transport"
  | .notConnected => "transport not connected"

end Refusal

/-! ## Listeners -/

/-- The number under which a listener is registered. -/
structure ListenerId where
  number : Nat
  deriving DecidableEq, Repr

/-- A listener's number in words. -/
def ListenerId.label (id : ListenerId) : String :=
  "listener_" ++ toString id.number

/-- The first number that is given out. -/
def ListenerId.first : ListenerId := ⟨1⟩

/-- The number given out behind another. -/
def ListenerId.next (id : ListenerId) : ListenerId := ⟨id.number + 1⟩

end WorkerRoster
