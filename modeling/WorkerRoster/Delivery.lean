import WorkerRoster.Tracking

/-!
# Carrying Effects Out

Effects are carried out in order against some bus that takes announcements or refuses them. Each
announcement is written down before it is offered; one that is refused is written down as lost and
not offered again.
-/

set_option autoImplicit false

namespace WorkerRoster

/-- A bus: what it does with an announcement, and whether it takes it. -/
structure Bus (β : Type) where
  offer : β → Announcement → β × Except Undelivered Unit

/-- Something that was done. -/
inductive Deed where
  /-- An entry was written down. -/
  | noted (e : Entry)
  /-- An announcement was offered to the bus, which took it or did not. -/
  | offered (a : Announcement) (taken : Bool)
  deriving DecidableEq, Repr

/-- The entries among deeds, in order. -/
def entries (deeds : List Deed) : Journal :=
  deeds.filterMap fun
    | .noted e => some e
    | .offered _ _ => none

namespace Announcement

/-- The entry written before an announcement is offered. -/
def noticeEntry : Announcement → Entry
  | .availability w available =>
    .write .info "worker availability changed"
      [("worker", .shown w.address), ("available", .flag available)]
  | .offline w => .write .info "worker went offline" [("worker", .shown w.address)]

/-- The entry written when an announcement is lost. -/
def lossEntry (a : Announcement) (reason : Undelivered) : Entry :=
  let incident := Incident.announcementLost a.worker a.kind reason
  .write .error "dropping worker event"
    [("error", .shown incident.message), ("error_kind", .text incident.category)]

end Announcement

namespace Bus

variable {β : Type} (bus : Bus β)

/-- Make one announcement. -/
def announce (state : β) (a : Announcement) : β × List Deed :=
  match bus.offer state a with
  | (state, .ok ()) => (state, [.noted a.noticeEntry, .offered a true])
  | (state, .error reason) =>
    (state, [.noted a.noticeEntry, .offered a false, .noted (a.lossEntry reason)])

/-- Carry out one effect. -/
def perform (state : β) : Effect → β × List Deed
  | .note e => (state, [.noted e])
  | .announce a => bus.announce state a

/-- Carry out effects in order. -/
def performAll (state : β) : List Effect → β × List Deed
  | [] => (state, [])
  | e :: rest =>
    let (state, deeds) := bus.perform state e
    let (state, later) := performAll state rest
    (state, deeds ++ later)

end Bus

end WorkerRoster
