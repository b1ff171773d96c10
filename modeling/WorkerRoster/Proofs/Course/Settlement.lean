import Mathlib.Data.List.Perm.Subperm
import WorkerRoster.Proofs.Course

/-!
# What a Monitor Owes the Room

A monitor adds listeners to rooms and enters rooms, and owes the room the removal of each listener
and a leave for each time that it was let in. Who has to do it moves around: a call that makes an
attempt, the monitor itself while it is in the room, a call that stops it. Here it is shown that in
every course of events nothing is owed in the end but what belongs to the seat that the monitor has,
and that nothing is given back twice.

## Main statements

- `Course.Reachable.conserves`: what is gained is spent, kept by a call that waits, or kept by the
  monitor
- `Course.Reachable.exists_attempt`: a monitor that is about to enter has a call that is at it
- `Course.Thread.isApart`: a refused call and one that leaves are different calls
- `Course.Reachable.settled`: what is owed in the end
-/

set_option autoImplicit false

namespace WorkerRoster

/-! ## Requests -/

namespace Request

/-- The room in which a listener is to be added. -/
def addedIn? : Request → Option RoomRef
  | .addRoomListener room _ => some room
  | _ => none

/-- The seat whose listener is to be removed. -/
def removed? : Request → Option Seat
  | .removeRoomListener room listener => some ⟨room, listener⟩
  | _ => none

/-- The room that is to be left. -/
def left? : Request → Option RoomRef
  | .leave room => some room
  | _ => none

end Request

/-- Whether an attempt was just told that it is not let in. -/
def Cue.isRefusal : Cue → Bool
  | .reply (.entering _ _) (.error _) => true
  | _ => false

/-- The room in which a call asks for a listener. -/
def Pending.addedIn? : Pending → Option RoomRef
  | .listening _ room => some room
  | _ => none

namespace Episode

theorem asks_addedIn? (e : Episode) :
    e.asks.bind Request.addedIn? = e.turn.pending.bind Pending.addedIn? := by
  unfold asks
  cases e.turn.pending with
  | none => rfl
  | some p => cases p <;> rfl

theorem asks_removed? (e : Episode) :
    e.asks.bind Request.removed? = e.turn.pending.bind Pending.removed? := by
  unfold asks
  cases e.turn.pending with
  | none => rfl
  | some p => cases p <;> rfl

theorem asks_left? (e : Episode) :
    e.asks.bind Request.left? = (e.turn.pending.bind Pending.vacated?).map Seat.room := by
  unfold asks
  cases e.turn.pending with
  | none => rfl
  | some p => cases p <;> rfl

/-- Whether a room is to be left. -/
def isLeave (e : Episode) : Bool :=
  (e.asks.bind Request.left?).isSome

/-- A call that is to leave a room waits for that. -/
theorem pending_of_isLeave (e : Episode) (h : e.isLeave) :
    ∃ seat parting, e.turn.pending = some (.leaving seat parting) := by
  rw [isLeave, asks_left?, Option.isSome_map] at h
  cases hp : e.turn.pending with
  | none => simp [hp] at h
  | some p => cases p <;> simp_all [Pending.vacated?]

/-- A call that was refused waits until its listener is gone. -/
theorem pending_of_isRefusal (e : Episode) (h : e.cue.isRefusal) :
    ∃ generation seat refusal, e.turn.pending = some (.retreating generation seat refusal) := by
  obtain ⟨_, _, cue⟩ := e
  dsimp only at h
  unfold Cue.isRefusal at h
  split at h
  · exact ⟨_, _, _, rfl⟩
  · cases h

/-- A refused call whose listener is gone is at its end. -/
theorem pending_of_retreating (e : Episode) {generation : UInt64} {seat : Seat} {refusal : Refusal}
    {r : (Pending.retreating generation seat refusal).Reply}
    (h : e.cue = .reply (.retreating generation seat refusal) r) : e.turn.pending = none := by
  have htakes := e.takes
  rw [h] at htakes
  cases htakes with
  | aside answered => cases answered
  | begins answered => cases answered
  | stops answered => cases answered
  | fails _ _ _ pending => exact pending
  | forgets _ _ _ pending => exact pending

/-- A call that has left the room is at its end. -/
theorem pending_of_leaving (e : Episode) {seat : Seat} {parting : Parting}
    {r : (Pending.leaving seat parting).Reply} (h : e.cue = .reply (.leaving seat parting) r) :
    e.turn.pending = none := by
  unfold turn
  rw [h]
  rfl

end Episode

namespace Course

variable {room : String} {c c' : Course}

/-! ## Accounts -/

/-- The rooms in which a listener was asked for, in order. -/
def asked (c : Course) : List RoomRef :=
  c.history.filterMap (·.asks.bind Request.addedIn?)

/-- The listeners that were added, in order. -/
def added (c : Course) : List Seat :=
  c.history.filterMap (·.cue.added?)

/-- The listeners whose removal was asked for, in order. -/
def removed (c : Course) : List Seat :=
  c.history.filterMap (·.asks.bind Request.removed?)

/-- The rooms that the monitor was let into, in order. -/
def entered (c : Course) : List RoomRef :=
  c.history.filterMap (·.cue.entered?.map Seat.room)

/-- The rooms that were to be left, in order. -/
def left (c : Course) : List RoomRef :=
  c.history.filterMap (·.asks.bind Request.left?)

/-- If each turn only passes on what there is, then what was ever gained was spent, or is kept by a
    call that waits, or by the monitor. -/
theorem Reachable.conserves {α : Type} [DecidableEq α] (h : Reachable room c)
    (gain spend : Episode → Option α) (keep : Pending → Option α) (stay : Monitor → Option α)
    (new : stay { room } = none)
    (turn : ∀ e : Episode,
      ((gain e).toList ++ (e.cue.answered.bind keep).toList ++ (stay e.monitor).toList).Perm
        ((spend e).toList ++ (e.turn.pending.bind keep).toList ++
          (stay e.turn.monitor).toList)) :
    (c.history.filterMap gain).Perm
      (c.history.filterMap spend ++ c.waiting.filterMap (keep ·.pending) ++
        (stay c.monitor).toList) := by
  induction h with
  | start => simp [new]
  | @step c c' _ hstep ih =>
    obtain ⟨call, cue, front, back, rfl, hwaiting⟩ := hstep.exists_advance
    -- what the call kept comes out from among the calls that wait, and goes in again
    rw [hwaiting, List.perm_iff_count] at ih
    rw [List.perm_iff_count]
    intro a
    have ha := ih a
    have hturn := (turn ⟨call, c.monitor, cue⟩).count_eq a
    simp only [advance, List.filterMap_append, filterMap_waiting, List.count_append] at ha hturn ⊢
    -- the turn adds one gain and one expense at most
    have hgain : ∀ f : Episode → Option α, ([⟨call, c.monitor, cue⟩] : List Episode).filterMap f =
        (f ⟨call, c.monitor, cue⟩).toList := by
      intro f
      cases hf : f ⟨call, c.monitor, cue⟩ <;> simp [hf]
    rw [hgain, hgain]
    omega

/-- Every listener that was asked for was added, unless a call waits for its number. -/
theorem Reachable.asked_perm (h : Reachable room c) :
    c.asked.Perm (c.added.map (·.room) ++ c.waiting.filterMap (·.pending.addedIn?)) := by
  have hadded : ∀ cue : Cue, cue.added?.map (·.room) = cue.answered.bind Pending.addedIn? := by
    intro cue
    cases cue with
    | call _ => rfl
    | reply p r => cases p <;> rfl
  have hrooms := h.conserves (·.asks.bind Request.addedIn?) (·.cue.added?.map (·.room))
    Pending.addedIn? (fun _ => none) rfl fun e => by
      rw [e.asks_addedIn?, hadded]
      simpa using List.perm_append_comm
  simpa [asked, added, List.map_filterMap] using hrooms

/-- Every listener that was added was removed, or its removal is on the hands of a call that waits,
    or it is the one of the monitor's seat. -/
theorem Reachable.added_perm (h : Reachable room c) :
    c.added.Perm (c.removed ++ c.waiting.filterMap (·.pending.held?) ++
      c.monitor.phase.seat?.toList) :=
  h.conserves (·.cue.added?) (·.asks.bind Request.removed?) Pending.held? (·.phase.seat?) rfl
    fun e => by
      rw [e.asks_removed?]
      exact (e.monitor.seats_turn e.cue).1

/-- Every room that the monitor was let into was left, or leaving it is on the hands of a call that
    waits, or it is the one of the monitor's seat. -/
theorem Reachable.entered_perm (h : Reachable room c) :
    c.entered.Perm (c.left ++ c.waiting.filterMap (·.pending.occupied?.map Seat.room) ++
      (c.monitor.phase.seat?.map Seat.room).toList) :=
  h.conserves (·.cue.entered?.map Seat.room) (·.asks.bind Request.left?)
    (fun p => p.occupied?.map Seat.room) (·.phase.seat?.map Seat.room) rfl fun e => by
      have hrooms := (e.monitor.seats_turn e.cue).2.map Seat.room
      simp only [List.map_append, ← Option.toList_map, Option.map_bind] at hrooms
      rw [e.asks_left?, Option.map_bind]
      exact hrooms

/-! ## Attempts -/

/-- Whenever a monitor is about to enter a room, a call waits that is at it. -/
theorem Reachable.exists_attempt (h : Reachable room c) (joining : c.monitor.phase = .joining) :
    ∃ w ∈ c.waiting, w.pending.attempt? = some c.monitor.generation := by
  induction h with
  | start => cases joining
  | @step c c' _ hstep ih =>
    obtain ⟨call, cue, front, back, rfl, hwaiting⟩ := hstep.exists_advance
    have hmem := c.mem_waiting_advance call cue front back
    rcases c.monitor.attempt_turn cue joining with hnew | ⟨hphase, hgeneration, hanswered⟩
    · obtain ⟨p, hp, hattempt⟩ := Option.bind_eq_some_iff.1 hnew
      exact ⟨⟨call, p⟩, (hmem _).2 (.inr ⟨rfl, hp⟩), hattempt⟩
    · obtain ⟨w, hw, hattempt⟩ := ih hphase
      refine ⟨w, (hmem w).2 (.inl ?_), hattempt.trans (congrArg some hgeneration.symm)⟩
      -- the call that took the turn was not at it
      rw [hwaiting] at hw
      simp only [List.mem_append, Option.mem_toList, Option.map_eq_some_iff] at hw
      rcases hw with (hw | ⟨p, hp, rfl⟩) | hw
      · exact List.mem_append_left _ hw
      · rw [hp] at hanswered
        exact absurd hattempt hanswered
      · exact List.mem_append_right _ hw

/-! ## Refusals -/

/-- A refused call and one that leaves are different calls: both are at their last question. -/
structure IsApart (es : List Episode) (p : Option Pending) : Prop where
  /-- A refused call waits for nothing but that its listener is gone. -/
  refused : ∀ e ∈ es, e.cue.isRefusal →
    p = none ∨ ∃ generation seat refusal, p = some (.retreating generation seat refusal)
  /-- A call that leaves waits for nothing but that. -/
  leaving : ∀ e ∈ es, e.isLeave → p = none ∨ ∃ seat parting, p = some (.leaving seat parting)
  /-- No call does both. -/
  apart : ∀ e ∈ es, e.cue.isRefusal → ∀ e' ∈ es, ¬ e'.isLeave

/-- A refused call and one that leaves are different calls. -/
theorem Thread.isApart {es : List Episode} {p : Option Pending} (h : Thread es p) :
    IsApart es p := by
  induction h with
  | @begins e x cue =>
    have hnot : ¬ e.cue.isRefusal := by simp [cue, Cue.isRefusal]
    refine ⟨?_, ?_, ?_⟩ <;> intro e' he' <;> rw [List.mem_singleton.1 he']
    · exact fun he => absurd he hnot
    · exact fun he => .inr (e.pending_of_isLeave he)
    · exact fun he => absurd he hnot
  | @goesOn es p e r _ cue ih =>
    refine ⟨?refused, ?leaving, ?apart⟩
    case refused =>
      intro e' he' hrefused
      rcases List.mem_append.1 he' with he' | he'
      · rcases ih.refused e' he' hrefused with h | ⟨_, _, _, h⟩
        · cases h
        · cases h
          exact .inl (e.pending_of_retreating cue)
      · rw [List.mem_singleton.1 he'] at hrefused
        exact .inr (e.pending_of_isRefusal hrefused)
    case leaving =>
      intro e' he' hleave
      rcases List.mem_append.1 he' with he' | he'
      · rcases ih.leaving e' he' hleave with h | ⟨_, _, h⟩
        · cases h
        · cases h
          exact .inl (e.pending_of_leaving cue)
      · rw [List.mem_singleton.1 he'] at hleave
        exact .inr (e.pending_of_isLeave hleave)
    case apart =>
      intro e₁ he₁ hrefused e₂ he₂ hleave
      rcases List.mem_append.1 he₁ with he₁ | he₁ <;> rcases List.mem_append.1 he₂ with he₂ | he₂
      · exact ih.apart e₁ he₁ hrefused e₂ he₂ hleave
      · -- a refused call has only its listener left to see gone
        rw [List.mem_singleton.1 he₂] at hleave
        obtain ⟨_, _, hasked⟩ := e.pending_of_isLeave hleave
        rcases ih.refused e₁ he₁ hrefused with h | ⟨_, _, _, h⟩
        · cases h
        · cases h
          rw [e.pending_of_retreating cue] at hasked
          cases hasked
      · -- a call that leaves asks to be let in no more
        rw [List.mem_singleton.1 he₁] at hrefused
        rcases ih.leaving e₂ he₂ hleave with h | ⟨_, _, h⟩
        · cases h
        · cases h
          rw [cue] at hrefused
          cases hrefused
      · rw [List.mem_singleton.1 he₁] at hrefused
        rw [List.mem_singleton.1 he₂] at hleave
        obtain ⟨_, _, _, hasked⟩ := e.pending_of_isRefusal hrefused
        obtain ⟨_, _, hasked'⟩ := e.pending_of_isLeave hleave
        rw [hasked] at hasked'
        cases hasked'

/-! ## In the end -/

/-- No listener is removed that was not added, and none twice; no room is left that the monitor was
    not let into, and none twice; and a call that was refused leaves no room. Whenever no call
    waits, the monitor is not about to enter, and everything is given back but what belongs to its
    seat. -/
theorem Reachable.settled (h : Reachable room c) :
    c.removed.Subperm c.added ∧ c.left.Subperm c.entered ∧
      (∀ e ∈ c.history, e.cue.isRefusal → ∀ e' ∈ c.history, e'.call = e.call → ¬ e'.isLeave) ∧
      (c.waiting = [] →
        c.monitor.phase ≠ .joining ∧
        c.asked.Perm (c.added.map (·.room)) ∧
        c.added.Perm (c.removed ++ c.monitor.phase.seat?.toList) ∧
        c.entered.Perm (c.left ++ (c.monitor.phase.seat?.map Seat.room).toList)) := by
  have hadded := h.added_perm
  have hentered := h.entered_perm
  refine ⟨?removed, ?left, ?refused, fun hnobody => ⟨?phase, ?asked, ?added, ?entered⟩⟩
  case removed =>
    -- what was removed is a part of what was added, whoever has the rest
    rw [List.append_assoc] at hadded
    exact (List.sublist_append_left _ _).subperm.trans hadded.symm.subperm
  case left =>
    rw [List.append_assoc] at hentered
    exact (List.sublist_append_left _ _).subperm.trans hentered.symm.subperm
  case refused =>
    -- both are turns of one call, so its thread tells them apart
    intro e he hrefused e' he' hcall
    obtain ⟨p, hthread⟩ := h.exists_thread he
    exact hthread.isApart.apart e (mem_thread.2 ⟨he, rfl⟩) hrefused e' (mem_thread.2 ⟨he', hcall⟩)
  case phase =>
    -- somebody would have to be at it
    intro hjoining
    obtain ⟨w, hw, -⟩ := h.exists_attempt hjoining
    simp [hnobody] at hw
  case asked => simpa [hnobody] using h.asked_perm
  case added => simpa [hnobody] using hadded
  case entered => simpa [hnobody] using hentered

/-- An attempt is interrupted by the loss of the registration and by two further attempts, of which
    the first is refused. It is let in at last, and gives back what it has. -/
theorem Reachable.settled_interrupted :
    ∃ c, Reachable "brewery" c ∧ c.waiting = [] ∧
      c.added = [⟨⟨0⟩, ⟨2⟩⟩, ⟨⟨0⟩, ⟨3⟩⟩, ⟨⟨0⟩, ⟨4⟩⟩] ∧ c.entered = [⟨0⟩, ⟨0⟩] ∧
      c.monitor.phase = .present ⟨⟨0⟩, ⟨4⟩⟩ ∧
      c.added.Perm (c.removed ++ [⟨⟨0⟩, ⟨4⟩⟩]) ∧ c.entered.Perm (c.left ++ [⟨0⟩]) := by
  have h : Reachable "brewery" _ := .start
  replace h := h.step (.begin .init)
  replace h := h.step (.resume [] [] rfl (⟨1⟩ : ListenerId))
  replace h := h.step (.resume [] [] rfl true)
  replace h := h.step (.resume [] [] rfl (.ok ⟨0⟩ : Except Refusal RoomRef))
  replace h := h.step (.resume [] [] rfl (⟨2⟩ : ListenerId))
  replace h := h.step (.begin (.registration .unregistered))
  -- the second attempt
  replace h := h.step (.begin (.registration .registered))
  replace h := h.step (.resume [] [_] rfl (.ok ⟨0⟩ : Except Refusal RoomRef))
  replace h := h.step (.resume [] [_] rfl (⟨3⟩ : ListenerId))
  replace h := h.step (.resume [] [_] rfl (.error (.entry "full") : Except Refusal Unit))
  replace h := h.step (.resume [] [_] rfl ())
  -- the third
  replace h := h.step (.begin (.registration .registered))
  replace h := h.step (.resume [] [_] rfl (.ok ⟨0⟩ : Except Refusal RoomRef))
  replace h := h.step (.resume [] [_] rfl (⟨4⟩ : ListenerId))
  replace h := h.step (.resume [] [_] rfl (.ok () : Except Refusal Unit))
  -- the first goes on
  replace h := h.step (.resume [] [] rfl (.ok () : Except Refusal Unit))
  replace h := h.step (.resume [] [] rfl ())
  replace h := h.step (.resume [] [] rfl ())
  obtain ⟨-, -, -, hsettled⟩ := h.settled
  obtain ⟨-, -, hadded, hentered⟩ := hsettled rfl
  exact ⟨_, h, rfl, rfl, rfl, rfl, hadded, hentered⟩

end Course

end WorkerRoster
