import WorkerRoster.Announcement
import WorkerRoster.Channel

/-!
# Incidents

What can go wrong while workers are watched. Only a bad room name keeps anyone from working; all
others are written down and work goes on.
-/

set_option autoImplicit false

namespace WorkerRoster

/-- Why an announcement did not get through. -/
inductive Undelivered where
  /-- Nobody listens. -/
  | noSubscribers
  deriving DecidableEq, Repr

/-- The wording of the reason. -/
def Undelivered.message : Undelivered → String
  | .noSubscribers => "event bus has no subscribers"

/-- Something that went wrong. -/
inductive Incident where
  /-- A room cannot have a blank name. -/
  | invalidRoomName (name : String)
  /-- The room could not be entered. -/
  | joinFailed (room : String) (refusal : Refusal)
  /-- An announcement was lost. -/
  | announcementLost (worker : WorkerId) (kind : String) (reason : Undelivered)
  /-- A worker announced a word that means nothing. -/
  | unrecognizedStatus (worker : WorkerId) (word : String)
  deriving DecidableEq, Repr

namespace Incident

/-- The category of an incident, in one word. -/
def category : Incident → String
  | .invalidRoomName _ => "invalid_room_name"
  | .joinFailed _ _ => "channel_join_failed"
  | .announcementLost _ _ _ => "event_bus_unavailable"
  | .unrecognizedStatus _ _ => "unrecognized_status"

/-- The wording of an incident. -/
def message : Incident → String
  | .invalidRoomName name => "invalid room name: " ++ Text.quoted name
  | .joinFailed room refusal => "failed to join room " ++ room ++ ": " ++ refusal.message
  | .announcementLost worker kind reason =>
    "event bus unavailable, dropped " ++ kind ++ " for " ++ worker.address ++ ": " ++ reason.message
  | .unrecognizedStatus worker word =>
    "unrecognized status " ++ Text.quoted word ++ " from " ++ worker.address

/-- The wording of what caused an incident, if something else did. -/
def cause? : Incident → Option String
  | .joinFailed _ refusal => some refusal.message
  | .announcementLost _ _ reason => some reason.message
  | .invalidRoomName _ | .unrecognizedStatus _ _ => none

end Incident

end WorkerRoster
