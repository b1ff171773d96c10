import WorkerRoster.Delivery

/-!
# Before a Bus

What a step has to say is given back as a list of effects, and carried out before a bus later on.
Here it is shown what becomes of such a list: every announcement is offered once, in order, and
which of them the bus takes does not depend on what is written down in between.

The same can be done aloud: the work goes on before the bus, announces whatever there is to announce
at once, and hears each time whether the bus took it. This makes no difference. What an observation
or a farewell makes of a roster is the same, and so is what becomes of the bus.

## Main statements

- `Bus.offered_performAll`: every announcement is offered once, in order
- `Bus.performAll_announcements`: what is written down in between does not matter
- `Roster.amountsTo_trackAloud`, `Roster.amountsTo_dismissAloud`: work done aloud comes to the same
-/

set_option autoImplicit false

namespace WorkerRoster

/-! ## What is offered -/

/-- The announcements that were offered, in order, and whether each was taken. -/
def offers (deeds : List Deed) : List (Announcement × Bool) :=
  deeds.filterMap fun
    | .offered a taken => some (a, taken)
    | .noted _ => none

/-- The announcements that were offered, in order. -/
def offered (deeds : List Deed) : List Announcement :=
  (offers deeds).map (·.1)

@[simp] theorem offers_append (front back : List Deed) :
    offers (front ++ back) = offers front ++ offers back :=
  List.filterMap_append

@[simp] theorem offered_append (front back : List Deed) :
    offered (front ++ back) = offered front ++ offered back := by
  simp [offered]

namespace Bus

variable {β : Type} (bus : Bus β)

theorem performAll_cons (state : β) (e : Effect) (rest : List Effect) :
    bus.performAll state (e :: rest) =
      ((bus.performAll (bus.perform state e).1 rest).1,
        (bus.perform state e).2 ++ (bus.performAll (bus.perform state e).1 rest).2) :=
  rfl

theorem offered_perform (state : β) (e : Effect) :
    offered (bus.perform state e).2 = announcements [e] := by
  cases e with
  | note _ => rfl
  | announce a =>
    show offered (bus.announce state a).2 = [a]
    unfold announce
    split <;> rfl

/-- Every announcement is offered once, in order. -/
theorem offered_performAll (state : β) (effects : List Effect) :
    offered (bus.performAll state effects).2 = announcements effects := by
  induction effects generalizing state with
  | nil => rfl
  | cons e rest ih =>
    rw [performAll_cons, offered_append, ih, offered_perform, ← announcements_append]
    rfl

/-- What is written down between announcements makes no difference to the bus. -/
theorem performAll_announcements (state : β) (effects : List Effect) :
    (bus.performAll state effects).1 =
        (bus.performAll state ((announcements effects).map .announce)).1 ∧
      offers (bus.performAll state effects).2 =
        offers (bus.performAll state ((announcements effects).map .announce)).2 := by
  induction effects generalizing state with
  | nil => exact ⟨rfl, rfl⟩
  | cons e rest ih =>
    cases e with
    | note _ =>
      -- the bus is left as it is
      exact ih state
    | announce a =>
      have hannounced : (announcements (.announce a :: rest)).map Effect.announce =
          .announce a :: (announcements rest).map .announce := rfl
      obtain ⟨hstate, hoffers⟩ := ih (bus.perform state (.announce a)).1
      rw [hannounced, performAll_cons, performAll_cons, offers_append, offers_append, hoffers]
      exact ⟨hstate, rfl⟩

/-- Effects that announce the same are the same to a bus. -/
theorem performAll_congr (state : β) {effects others : List Effect}
    (h : announcements effects = announcements others) :
    (bus.performAll state effects).1 = (bus.performAll state others).1 ∧
      offers (bus.performAll state effects).2 = offers (bus.performAll state others).2 := by
  obtain ⟨hstate, hoffers⟩ := bus.performAll_announcements state effects
  obtain ⟨hstate', hoffers'⟩ := bus.performAll_announcements state others
  rw [hstate, hoffers, hstate', hoffers', h]
  exact ⟨rfl, rfl⟩

end Bus

/-! ## Work done aloud -/

/-- A bus in some state, and what was done before it so far. -/
structure Outlet (β : Type) where
  state : β
  deeds : List Deed := []

namespace Outlet

variable {β : Type}

/-- What becomes of a bus before which effects are carried out. -/
def after (bus : Bus β) (o : Outlet β) (effects : List Effect) : Outlet β :=
  let (state, deeds) := bus.performAll o.state effects
  { state, deeds := o.deeds ++ deeds }

@[simp] theorem after_nil (bus : Bus β) (o : Outlet β) : o.after bus [] = o := by
  simp [after, Bus.performAll]

/-- Effects can be carried out one after the other. -/
theorem after_cons (bus : Bus β) (o : Outlet β) (e : Effect) (effects : List Effect) :
    o.after bus (e :: effects) = (o.after bus [e]).after bus effects := by
  simp [after, Bus.performAll]

theorem after_append (bus : Bus β) (o : Outlet β) (front back : List Effect) :
    o.after bus (front ++ back) = (o.after bus front).after bus back := by
  induction front generalizing o with
  | nil => simp
  | cons e rest ih => rw [List.cons_append, after_cons, ih, ← after_cons]

theorem offered_after (bus : Bus β) (o : Outlet β) (effects : List Effect) :
    offered (o.after bus effects).deeds = offered o.deeds ++ announcements effects := by
  simp [after, bus.offered_performAll]

/-- Work that is done before a bus, and can go on according to what it hears. -/
abbrev Work (β α : Type) := StateM (Outlet β) α

end Outlet

namespace Bus

variable {β : Type} (bus : Bus β)

open Outlet (Work)

/-- Write an entry down. -/
def note (e : Entry) : Work β Unit :=
  modify fun o => { o with deeds := o.deeds ++ [.noted e] }

/-- Offer an announcement, and hear what becomes of it. -/
def put (a : Announcement) : Work β (Except Undelivered Unit) := fun o =>
  let (state, answer) := bus.offer o.state a
  (answer, { state, deeds := o.deeds ++ [.offered a answer.isOk] })

/-- Make an announcement, and hear whether it was taken. -/
def tell (a : Announcement) : Work β Bool := do
  note a.noticeEntry
  match ← bus.put a with
  | .ok () => return true
  | .error reason =>
    note (a.lossEntry reason)
    return false

/-- Carry out an effect, and do not care what is heard. -/
def speak : Effect → Work β Unit
  | .note e => note e
  | .announce a => do
    let _ ← bus.tell a

/-- Carry out effects in order. -/
def speakAll : List Effect → Work β Unit
  | [] => return
  | e :: rest => do
    bus.speak e
    speakAll rest

end Bus

/-! ## What work amounts to -/

namespace Outlet.Work

variable {β : Type} {bus : Bus β}

theorem run_pure {α : Type} (a : α) (o : Outlet β) : (pure a : Work β α).run o = (a, o) :=
  rfl

theorem run_bind {α γ : Type} (work : Work β α) (next : α → Work β γ) (o : Outlet β) :
    (work >>= next).run o = (next (work.run o).1).run (work.run o).2 :=
  rfl

/-- Work amounts to a result and to effects if it comes to that result whatever it hears, and
    leaves the bus as it is when the effects are carried out by somebody else. -/
def AmountsTo (bus : Bus β) {α : Type} (work : Work β α) (a : α) (effects : List Effect) : Prop :=
  ∀ o, work.run o = (a, o.after bus effects)

theorem amountsTo_pure {α : Type} (a : α) : (pure a : Work β α).AmountsTo bus a [] := by
  intro o
  rw [run_pure, after_nil]

theorem AmountsTo.bind {α γ : Type} {work : Work β α} {next : α → Work β γ} {a : α} {c : γ}
    {effects later : List Effect} (h : work.AmountsTo bus a effects)
    (hnext : (next a).AmountsTo bus c later) :
    (work >>= next).AmountsTo bus c (effects ++ later) := by
  intro o
  rw [run_bind, h, hnext, after_append]

/-- Work whose result is made into another one. -/
theorem AmountsTo.returning {α γ : Type} {work : Work β α} {a : α} {effects : List Effect}
    (h : work.AmountsTo bus a effects) (f : α → γ) :
    (work >>= fun a => pure (f a)).AmountsTo bus (f a) effects := by
  intro o
  rw [run_bind, h, run_pure]

theorem run_note (e : Entry) (o : Outlet β) :
    (Bus.note e : Work β Unit).run o = ((), { o with deeds := o.deeds ++ [.noted e] }) :=
  rfl

theorem amountsTo_note (e : Entry) : (Bus.note e : Work β Unit).AmountsTo bus () [.note e] :=
  fun _ => rfl

theorem run_put (a : Announcement) (o : Outlet β) :
    (bus.put a).run o =
      ((bus.offer o.state a).2,
        { state := (bus.offer o.state a).1,
          deeds := o.deeds ++ [.offered a (bus.offer o.state a).2.isOk] }) :=
  rfl

/-- Whatever is heard, the bus is left as it is when somebody else makes the announcement. -/
theorem run_tell (a : Announcement) (o : Outlet β) :
    ((bus.tell a).run o).2 = o.after bus [.announce a] := by
  rw [Bus.tell, run_bind, run_bind, run_note, run_put]
  -- one entry more is written down if the bus refuses
  cases h : bus.offer o.state a with
  | mk state answer =>
    cases answer with
    | ok _ =>
      simp only [run_pure]
      simp [after, Bus.performAll, Bus.perform, Bus.announce, h, Except.isOk, Except.toBool]
    | error reason =>
      simp only [run_bind, run_note, run_pure]
      simp [after, Bus.performAll, Bus.perform, Bus.announce, h, Except.isOk, Except.toBool]

section Next

variable {α : Type} {a : α} {later : List Effect} {next : Work β α}

theorem AmountsTo.afterNote (h : next.AmountsTo bus a later) (e : Entry) :
    (Bus.note e >>= fun _ => next).AmountsTo bus a (.note e :: later) :=
  (amountsTo_note e).bind h

/-- Work that goes on in the same way whatever it has heard. -/
theorem AmountsTo.afterTell (h : next.AmountsTo bus a later) (b : Announcement) :
    (bus.tell b >>= fun _ => next).AmountsTo bus a (.announce b :: later) := by
  intro o
  rw [run_bind, run_tell, h, ← after_cons]

theorem amountsTo_speak (e : Effect) : (bus.speak e).AmountsTo bus () [e] := by
  cases e with
  | note e => exact amountsTo_note e
  | announce b => exact (amountsTo_pure ()).afterTell b

theorem AmountsTo.afterSpeak (h : next.AmountsTo bus a later) (e : Effect) :
    (bus.speak e >>= fun _ => next).AmountsTo bus a (e :: later) :=
  (amountsTo_speak e).bind h

theorem amountsTo_speakAll (effects : List Effect) :
    (bus.speakAll effects).AmountsTo bus () effects := by
  induction effects with
  | nil => exact amountsTo_pure ()
  | cons e rest ih => exact ih.afterSpeak e

end Next

end Outlet.Work

/-! ## Observations and farewells aloud -/

namespace Roster

open Outlet (Work)

variable {β : Type} (bus : Bus β)

/-- A worker was seen with a status: what comes of it is announced on the way. -/
def trackAloud (r : Roster) (id : WorkerId) (status : Status) : Work β (Roster × Outcome) := do
  if status.isUndefined then
    match r.remove id with
    | (r, true) =>
      Bus.note (removalEntry id)
      let _ ← bus.tell (.offline id)
      return (r, .removed)
    | (r, false) =>
      return (r, .ignored)
  else
    match r.put id status with
    | (r, .created) =>
      Bus.note (additionEntry id status)
      bus.speak (statusEffect id status)
      return (r, .added)
    | (r, .updated _) =>
      bus.speak (statusEffect id status)
      return (r, .updated)

/-- It is announced of workers one after the other that they are gone. -/
def bidFarewell : List Worker → Work β Unit
  | [] => return ()
  | w :: rest => do
    let _ ← bus.tell (.offline w.id)
    bidFarewell rest

/-- Everybody is gone: it is announced of each, and they are counted. -/
def dismissAloud (r : Roster) : Work β (Roster × Nat) :=
  match r.drain with
  | (r, gone) => do
    bidFarewell bus gone
    return (r, gone.length)

/-- A worker who is seen aloud is tracked as ever. -/
theorem amountsTo_trackAloud (r : Roster) (id : WorkerId) (status : Status) :
    (r.trackAloud bus id status).AmountsTo bus
      ((r.track id status).roster, (r.track id status).outcome) (r.track id status).effects := by
  unfold trackAloud track
  split
  · -- it is gone
    rcases r.remove id with ⟨left, wasKnown⟩
    cases wasKnown with
    | true => exact ((Work.amountsTo_pure _).afterTell _).afterNote _
    | false => exact Work.amountsTo_pure _
  · -- it is there
    cases r.put id status with
    | mk seen change =>
      cases change with
      | created => exact ((Work.amountsTo_pure _).afterSpeak _).afterNote _
      | updated _ => exact (Work.amountsTo_pure _).afterSpeak _

theorem amountsTo_bidFarewell (gone : List Worker) :
    (bidFarewell bus gone).AmountsTo bus () (gone.map fun w => .announce (.offline w.id)) := by
  induction gone with
  | nil => exact Work.amountsTo_pure _
  | cons w rest ih => exact ih.afterTell (.offline w.id)

/-- Workers who are dismissed aloud are dismissed as ever. -/
theorem amountsTo_dismissAloud (r : Roster) :
    (r.dismissAloud bus).AmountsTo bus (r.dismiss.roster, r.dismiss.count) r.dismiss.effects :=
  (amountsTo_bidFarewell bus r.drain.2).returning fun _ => (r.drain.1, r.drain.2.length)

end Roster

end WorkerRoster
