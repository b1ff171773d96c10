import WorkerRoster.Announcement
import WorkerRoster.Json.Decode
import WorkerRoster.Json.Printer

/-!
# Announcements as JSON

An announcement is written as an object whose member `type` says what kind it is. A reader does not
know the kind before it has met that member, so it reads all others as plain JSON first and looks
at the fields of the kind afterwards.
-/

set_option autoImplicit false

namespace WorkerRoster.Announcement

open Json

/-- An announcement as a JSON value. -/
def toValue : Announcement → Value
  | .availability w available =>
    .object
      [("type", .text "availability_changed"), ("worker", .text w.address),
       ("available", .bool available)]
  | .offline w => .object [("type", .text "went_offline"), ("worker", .text w.address)]

/-! ## Kinds -/

/-- The kinds of announcement. -/
inductive Kind where
  | availability
  | offline
  deriving DecidableEq, Repr

/-- The names of the kinds. -/
def kinds : List (String × Kind) :=
  [("availability_changed", .availability), ("went_offline", .offline)]

/-- Read the name of a kind. -/
def readKind : Source → Reading Kind
  | .text name => Source.named kinds name
  | s => .error (s.mismatch "variant identifier")

/-- What an announcement of a kind is called in a fault. -/
def Kind.describe : Kind → String
  | .availability => "struct variant WorkerEvent::AvailabilityChanged with 2 elements"
  | .offline => "struct variant WorkerEvent::WentOffline with 1 element"

/-- The number of fields of a kind. -/
def Kind.size : Kind → Nat
  | .availability => 2
  | .offline => 1

/-! ## Fields -/

/-- Read the address of a worker. -/
def readWorker (s : Source) : Reading WorkerId :=
  (Source.readText s).map WorkerId.mk

/-- The fields that have been read. -/
structure Draft where
  worker : Option WorkerId := none
  available : Option Bool := none

/-- Read one member of an announcement of a kind; one that goes offline has no availability. -/
def readMember (kind : Kind) (d : Draft) (key : String) (s : Source) : Option (Reading Draft) :=
  match key, kind with
  | "worker", _ =>
    some ((Source.fill key d.worker readWorker s).map fun v => { d with worker := v })
  | "available", .availability =>
    some ((Source.fill key d.available Source.readBool s).map fun v => { d with available := v })
  | _, _ => none

/-- The announcement whose fields have been read. -/
def Draft.finish (kind : Kind) (d : Draft) : Reading Announcement :=
  match d.worker, kind, d.available with
  | none, _, _ => .error (.missingField "worker")
  | some w, .offline, _ => .ok (.offline w)
  | some _, .availability, none => .error (.missingField "available")
  | some w, .availability, some b => .ok (.availability w b)

/-- Read the fields of an announcement that is written as an array. -/
def readFields (kind : Kind) (items : List Source) : Reading Announcement := do
  let (w, rest) ←
    Source.itemOr .closed readWorker (.error (.invalidLength 0 kind.describe)) items
  let (a, rest) ←
    match kind with
    | .offline => Except.ok (Announcement.offline w, rest)
    | .availability => do
      let (b, rest) ←
        Source.itemOr .closed Source.readBool (.error (.invalidLength 1 kind.describe)) rest
      Except.ok (Announcement.availability w b, rest)
  if rest.isEmpty then return a
  else
    let elements := if kind.size = 1 then "1 element" else toString kind.size ++ " elements"
    throw (.invalidLength items.length (elements ++ " in sequence"))

/-! ## Reading -/

/-- A member is kept for later only if it is plain JSON, nested no deeper than JSON may be. -/
def keep (s : Source) : Reading Unit :=
  if (s.value? (depthLimit - 1)).isSome then .ok () else .error .malformed

/-- Go through the members to find the kind; the others are kept. -/
def findKind (kind : Option Kind) (ending : Ending) :
    List (Option String × Source) → Reading (Option Kind)
  | [] => if ending = .closed then .ok kind else .error .malformed
  | (none, _) :: _ => .error .malformed
  | (some "type", s) :: rest => do
    findKind (← Source.fill "type" kind readKind s) ending rest
  | (some _, s) :: rest => do
    keep s
    findKind kind ending rest

/-- Keep all items of an array. -/
def keepItems (ending : Ending) : List Source → Reading Unit
  | [] => if ending = .closed then .ok () else .error .malformed
  | s :: rest => do
    keep s
    keepItems ending rest

/-- Read an announcement. -/
def read : Source → Reading Announcement
  | .object members ending => do
    match ← findKind none ending members with
    | none => throw (.missingField "type")
    | some kind =>
      let fields := members.filter (·.1 ≠ some "type")
      (← Source.readMembers (readMember kind) {} .closed fields).finish kind
  | .array items ending => do
    let (kind, rest) ← Source.itemOr ending readKind (.error (.missingField "type")) items
    keepItems ending rest
    readFields kind rest
  | s => .error (s.mismatch "internally tagged enum WorkerEvent")

/-- Read an announcement from a text. -/
def ofText (s : String) : Reading Announcement :=
  (Document.ofText s).read read

end WorkerRoster.Announcement
