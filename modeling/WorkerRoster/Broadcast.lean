import WorkerRoster.Delivery
import WorkerRoster.Settings

/-!
# The Broadcast Bus

A bus with any number of receivers. Every receiver gets every announcement that was made since it
subscribed, in order. The bus keeps the latest announcements, as many as it has room for; a
receiver that falls further behind is told once how many it has missed and goes on with the oldest
one that is kept. Without a receiver the bus refuses announcements.
-/

set_option autoImplicit false

namespace WorkerRoster

/-- A broadcast bus. Positions count the announcements that were taken. -/
structure Broadcast where
  /-- How many announcements are kept. -/
  size : Nat
  /-- The announcements that are kept, latest first. -/
  recent : List Announcement := []
  /-- How many announcements were taken so far. -/
  taken : Nat := 0
  /-- For every receiver the position of its next announcement, none once it was dropped. -/
  receivers : List (Option Nat) := []
  /-- Whether the sending side is gone. -/
  isClosed : Bool := false
  deriving Repr

namespace Broadcast

/-! ## Size -/

/-- No bus can be made for more announcements than this. -/
def maxCapacity : Nat := 0x7fffffffffffffff

/-- The room that a bus of some capacity has: the least power of two that is not below it. -/
def roomFor (capacity : Nat) : Nat :=
  if capacity ≤ 1 then 1 else 1 <<< ((capacity - 1).log2 + 1)

/-- A bus of some capacity, none if that is too much. -/
def create? (capacity : Nat) : Option Broadcast :=
  if capacity ≤ maxCapacity then some { size := roomFor capacity } else none

/-- A bus of the capacity that is set. -/
def ofSettings? (s : DetectionSettings) : Option Broadcast :=
  create? s.capacity.toNat

/-! ## Sending -/

/-- How many receivers there are. -/
def receiverCount (b : Broadcast) : Nat :=
  b.receivers.countP Option.isSome

/-- Make an announcement. -/
def publish (b : Broadcast) (a : Announcement) : Broadcast × Except Undelivered Unit :=
  if b.receiverCount = 0 then (b, .error .noSubscribers)
  else ({ b with recent := (a :: b.recent).take b.size, taken := b.taken + 1 }, .ok ())

/-- The bus as something that takes announcements. -/
def bus : Bus Broadcast := ⟨publish⟩

/-- Close the sending side. -/
def close (b : Broadcast) : Broadcast :=
  { b with isClosed := true }

/-! ## Receiving -/

/-- Add a receiver, which is known by the number of those there were before. -/
def subscribe (b : Broadcast) : Broadcast × Nat :=
  ({ b with receivers := b.receivers ++ [some b.taken] }, b.receivers.length)

/-- Whether a receiver is there. -/
def isSubscribed (b : Broadcast) (receiver : Nat) : Bool :=
  (b.receivers[receiver]?.join).isSome

/-- Drop a receiver. -/
def unsubscribe (b : Broadcast) (receiver : Nat) : Broadcast :=
  { b with receivers := b.receivers.set receiver none }

/-- What a receiver gets. -/
inductive Received where
  | announcement (a : Announcement)
  /-- So many announcements were missed. -/
  | lagged (missed : Nat)
  deriving DecidableEq, Repr

/-- Why a receiver gets nothing. -/
inductive Silence where
  /-- There is nothing new. -/
  | empty
  /-- There is nothing new, and there never will be. -/
  | closed
  /-- There is no such receiver. -/
  | dropped
  deriving DecidableEq, Repr

/-- The position of the oldest announcement that is kept. -/
def oldest (b : Broadcast) : Nat :=
  b.taken - b.recent.length

/-- The announcement at a position, if it is kept. -/
def at? (b : Broadcast) (position : Nat) : Option Announcement :=
  if position < b.taken then b.recent[b.taken - 1 - position]? else none

/-- Receive what comes next. -/
def receive (b : Broadcast) (receiver : Nat) : Broadcast × Except Silence Received :=
  match b.receivers[receiver]?.join with
  | none => (b, .error .dropped)
  | some next =>
    if b.taken ≤ next then (b, .error (if b.isClosed then .closed else .empty))
    else
      match b.at? next with
      | some a =>
        ({ b with receivers := b.receivers.set receiver (some (next + 1)) }, .ok (.announcement a))
      | none =>
        -- only announcements older than the oldest kept one are missing
        ({ b with receivers := b.receivers.set receiver (some b.oldest) },
         .ok (.lagged (b.oldest - next)))

/-- Receive until nothing comes any more, at most a number of times. -/
def receiveUpTo (receiver : Nat) : Nat → Broadcast → Broadcast × List Received
  | 0, b => (b, [])
  | n + 1, b =>
    match b.receive receiver with
    | (b, .ok r) =>
      let (b, rest) := receiveUpTo receiver n b
      (b, r :: rest)
    | (b, .error _) => (b, [])

/-- Receive everything there is: at most all that is kept, behind one report of a lag. -/
def receiveAll (b : Broadcast) (receiver : Nat) : Broadcast × Except Silence (List Received) :=
  if b.isSubscribed receiver then
    let (b, got) := receiveUpTo receiver (b.recent.length + 1) b
    (b, .ok got)
  else (b, .error .dropped)

end Broadcast

end WorkerRoster
