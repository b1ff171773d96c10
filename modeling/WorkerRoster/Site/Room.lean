import WorkerRoster.Monitor

/-!
# Rooms of a Site

A room that is moved by hand. It knows who is in it whether or not anyone on this side has entered
it, but notices go out only while it is entered. Each function is what the room does without
interruption; the notices it gives back are delivered afterwards.
-/

set_option autoImplicit false

namespace WorkerRoster

/-- Who is called with the notices of a room. -/
inductive RoomListener where
  /-- A monitor, for one of its attempts. -/
  | monitor (index : Nat) (generation : UInt64)
  /-- Somebody else. -/
  | outsider (tag : Nat)
  deriving DecidableEq, Repr

/-- A room. -/
structure Room where
  name : String
  /-- Whether the room is entered. -/
  isEntered : Bool := false
  /-- The listeners, in the order in which they were added. -/
  listeners : List (ListenerId × RoomListener) := []
  /-- The members, each once. -/
  occupants : List Occupant := []
  /-- What the next attempt to enter is refused with, if it is. -/
  nextRefusal : Option Refusal := none
  /-- How often the room was entered. -/
  entries : Nat := 0
  /-- How often the room was left. -/
  exits : Nat := 0
  deriving Repr

namespace Room

/-! ## Members -/

/-- A member comes in; one that is there already comes in anew. -/
def arrive (r : Room) (id : WorkerId) (presence : Option Presence) : Room × Notice :=
  let occupant : Occupant := ⟨id, presence⟩
  ({ r with occupants := r.occupants.filter (·.id ≠ id) ++ [occupant] }, ⟨.joined, occupant⟩)

/-- Replace a member in place. -/
def replace (occupant : Occupant) : List Occupant → List Occupant
  | [] => [occupant]
  | o :: rest => if o.id = occupant.id then occupant :: rest else o :: replace occupant rest

/-- A member shows something new; one that is not there comes in silently. -/
def update (r : Room) (id : WorkerId) (presence : Presence) : Room × Notice :=
  let occupant : Occupant := ⟨id, some presence⟩
  ({ r with occupants := replace occupant r.occupants }, ⟨.changed, occupant⟩)

/-- A member goes; of one that is not there nothing is known. -/
def depart (r : Room) (id : WorkerId) (kind : NoticeKind) : Room × Notice :=
  let occupant := (r.occupants.find? (·.id = id)).getD ⟨id, none⟩
  ({ r with occupants := r.occupants.eraseP (·.id = id) }, ⟨kind, occupant⟩)

/-! ## Entering and leaving -/

/-- Enter the room. The members who are there are announced to the listeners afterwards, unless the
    room is entered already. -/
def enter (r : Room) : Room × Except Refusal (List Occupant) :=
  match r.nextRefusal with
  | some refusal => ({ r with nextRefusal := none }, .error refusal)
  | none =>
    if r.isEntered then (r, .ok [])
    else ({ r with isEntered := true, entries := r.entries + 1 }, .ok r.occupants)

/-- Leave the room, if it is entered. -/
def leave (r : Room) : Room :=
  if r.isEntered then { r with isEntered := false, exits := r.exits + 1 } else r

/-! ## Listeners -/

/-- Add a listener. -/
def listen (r : Room) (id : ListenerId) (l : RoomListener) : Room :=
  { r with listeners := r.listeners ++ [(id, l)] }

/-- Remove a listener, if it is there. -/
def unlisten (r : Room) (id : ListenerId) : Room :=
  { r with listeners := r.listeners.filter (·.1 ≠ id) }

/-- Those to whom a notice goes out now. -/
def audience (r : Room) : List RoomListener :=
  if r.isEntered then r.listeners.map (·.2) else []

end Room

end WorkerRoster
