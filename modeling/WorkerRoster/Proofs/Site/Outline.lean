import WorkerRoster.Proofs.Site.Scene

/-!
# An Outline of a Site

Seen from outside, a site with one monitor is a small machine: some flags, and how often a room was
requested, entered and left. Here this machine is defined on its own, errand by errand, without
calls, listeners and members. What is under way at a site between two errands does not occur in it.

An attempt meets what stands against it in a fixed order: a refusal that was arranged for the next
request, the connection that is not up, a refusal that was arranged for the next entry. Only the
refusal that it meets is used up.
-/

set_option autoImplicit false

namespace WorkerRoster

/-- What a site with one monitor looks like from outside. -/
structure Outline where
  isConnected : Bool := false
  /-- Whether the monitor was told to watch, and not to stop since. -/
  isSubscribed : Bool := false
  isJoined : Bool := false
  /-- Whether the next request for a room is to be refused. -/
  refusesRequest : Bool := false
  /-- Whether the next attempt to enter the room is to be refused. -/
  refusesEntry : Bool := false
  requests : Nat := 0
  entries : Nat := 0
  exits : Nat := 0
  deriving DecidableEq, Repr

namespace Outline

/-- The room is requested and entered, unless something stands against it. -/
def attempt (o : Outline) : Outline :=
  if o.isJoined then o
  else if o.refusesRequest then
    { o with requests := o.requests + 1, refusesRequest := false }
  else if !o.isConnected then
    { o with requests := o.requests + 1 }
  else if o.refusesEntry then
    { o with requests := o.requests + 1, refusesEntry := false }
  else
    { o with requests := o.requests + 1, entries := o.entries + 1, isJoined := true }

/-- The room is left, if it was joined. -/
def retire (o : Outline) : Outline :=
  if o.isJoined then { o with exits := o.exits + 1, isJoined := false } else o

/-- What a monitor that listens makes of a state of the registration. -/
def heed (o : Outline) : Registration → Outline
  | .registered => o.attempt
  | .unregistered | .failed => o.retire
  | .registering => o

/-- The outline after an errand, where the room of a name is watched. -/
def next (name : String) (o : Outline) : Errand → Outline
  | .init =>
    if o.isSubscribed then o
    else if o.isConnected then { o with isSubscribed := true }.attempt
    else { o with isSubscribed := true }
  | .dispose => { o with isSubscribed := false }.retire
  | .setState state =>
    let o := { o with isConnected := state = Registration.registered }
    if o.isSubscribed then o.heed state else o
  | .refuseNextRequest _ => { o with refusesRequest := true }
  | .refuseNextEntry room _ => if room = name then { o with refusesEntry := true } else o
  | .arrive _ _ _ | .update _ _ _ | .depart _ _ _ => o

/-- The outline when errands are done one after the other. -/
def after (isUp : Bool) (name : String) (es : List Errand) : Outline :=
  es.foldl (next name) { isConnected := isUp }

theorem after_concat (isUp : Bool) (name : String) (es : List Errand) (e : Errand) :
    after isUp name (es ++ [e]) = (after isUp name es).next name e := by
  simp [after]

end Outline

/-- What a scene looks like from outside. -/
def Scene.outline (v : Scene) : Outline where
  isConnected := v.connection.isUp
  isSubscribed := v.monitor.isSubscribed
  isJoined := v.room.isEntered
  refusesRequest := v.connection.nextRefusal.isSome
  refusesEntry := v.room.nextRefusal.isSome
  requests := v.connection.requests
  entries := v.room.entries
  exits := v.room.exits

end WorkerRoster
