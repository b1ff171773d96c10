import WorkerRoster.Monitor

/-!
# What a Turn Can Do

Everything a monitor does, it does in turns: a turn begins with a call or with the reply to a
question, and ends with the next question or with the end of the call. Here is said once what a turn
can be (`Monitor.takes_turn`), and what is proved of runs rests on it.

## Main statements

- `Monitor.takes_turn`: every turn is one of thirteen
- `Monitor.seats_turn`: no listener and no place in a room gets lost, and none is given up twice
- `Monitor.rooms_turn`: no room is known but those that were handed out
- `Monitor.attempt_turn`: a monitor that is about to enter has a call that is at it
-/

set_option autoImplicit false

namespace WorkerRoster

/-! ## Cues -/

/-- Whether a question has nothing to do with the room. -/
def Pending.isAside : Pending → Bool
  | .subscribing | .withdrawing _ | .probing | .unsubscribing _ => true
  | .obtaining _ | .listening _ _ | .entering _ _ | .retreating _ _ _ | .releasing _ _
  | .leaving _ _ => false

/-- What sets a turn going. -/
inductive Cue where
  /-- A call begins. -/
  | call (c : Call)
  /-- A call that waits gets its reply. -/
  | reply (p : Pending) (r : p.Reply)

namespace Cue

/-- The question that has its reply. -/
def answered : Cue → Option Pending
  | .call _ => none
  | .reply p _ => some p

/-- Whether nothing was asked that has to do with the room. -/
def isAside (cue : Cue) : Bool :=
  cue.answered.all Pending.isAside

/-- The generation of an attempt that has failed for good. -/
def failed? : Cue → Option UInt64
  | .reply (.obtaining generation) (.error _) => some generation
  | .reply (.retreating generation _ _) _ => some generation
  | _ => none

end Cue

/-! ## Turns -/

/-- The turn that a monitor takes. -/
def Monitor.turn (m : Monitor) : Cue → Turn
  | .call c => m.begin c
  | .reply p r => m.resume p r

/-- Whether nothing is asked that has to do with the room. -/
def Turn.isAside (t : Turn) : Bool :=
  t.pending.all Pending.isAside

/-- The seat of a monitor that is in the room. -/
def Phase.seat? : Phase → Option Seat
  | .present seat => some seat
  | .away | .joining => none

/-- What a turn of a monitor can be. -/
inductive Monitor.Takes (m : Monitor) : Cue → Turn → Prop where
  /-- The turn has nothing to do with the room. -/
  | aside {cue : Cue} {t : Turn} (answered : cue.isAside) (asks : t.isAside)
      (phase : t.monitor.phase = m.phase) (generation : t.monitor.generation = m.generation)
      (roster : t.monitor.roster = m.roster) (silent : announcements t.effects = [])
      (room : t.monitor.room = m.room) : Takes m cue t
  /-- A notice counts. -/
  | sees {generation : UInt64} {n : Notice} {status : Status} {t : Turn}
      (heeds : m.heeds generation) (tells : n.status? = some status)
      (monitor : t.monitor = { m with roster := (m.roster.track n.occupant.id status).roster })
      (pending : t.pending = none)
      (announced : announcements t.effects =
        announcements (m.roster.track n.occupant.id status).effects) :
      Takes m (.call (.notice generation n)) t
  /-- An attempt begins. -/
  | begins {cue : Cue} {t : Turn} (answered : cue.isAside) (was : m.phase = .away)
      (monitor : t.monitor = { m with phase := .joining, generation := m.generation + 1 })
      (pending : t.pending = some (.obtaining (m.generation + 1)))
      (silent : announcements t.effects = []) :
      Takes m cue t
  /-- An attempt gets the room. -/
  | obtains {generation : UInt64} {room : RoomRef} {t : Turn} (monitor : t.monitor = m)
      (pending : t.pending = some (.listening generation room)) (silent : t.effects = []) :
      Takes m (.reply (.obtaining generation) (.ok room)) t
  /-- An attempt gets the number of its listener. -/
  | listens {generation : UInt64} {room : RoomRef} {listener : ListenerId} {t : Turn}
      (monitor : t.monitor = m)
      (pending : t.pending = some (.entering generation ⟨room, listener⟩))
      (silent : t.effects = []) :
      Takes m (.reply (.listening generation room) listener) t
  /-- The attempt that is under way is let in. -/
  | arrives {generation : UInt64} {seat : Seat} {t : Turn} (awaited : m.awaits generation)
      (monitor : t.monitor = { m with phase := .present seat }) (pending : t.pending = none)
      (silent : announcements t.effects = []) :
      Takes m (.reply (.entering generation seat) (.ok ())) t
  /-- An attempt is let in that is not the one under way. -/
  | overtaken {generation : UInt64} {seat : Seat} {t : Turn} (missed : ¬ m.awaits generation)
      (monitor : t.monitor = m) (pending : t.pending = some (.releasing seat .superseded))
      (silent : t.effects = []) :
      Takes m (.reply (.entering generation seat) (.ok ())) t
  /-- An attempt is not let in. -/
  | refused {generation : UInt64} {seat : Seat} {refusal : Refusal} {t : Turn}
      (monitor : t.monitor = m)
      (pending : t.pending = some (.retreating generation seat refusal))
      (silent : t.effects = []) :
      Takes m (.reply (.entering generation seat) (.error refusal)) t
  /-- The attempt that is under way has failed. -/
  | fails {cue : Cue} {generation : UInt64} {t : Turn} (failed : cue.failed? = some generation)
      (awaited : m.awaits generation)
      (monitor : t.monitor =
        { m with phase := .away, generation := m.generation + 1, roster := .empty })
      (pending : t.pending = none)
      (announced : announcements t.effects = m.roster.workers.map (.offline ·.id)) :
      Takes m cue t
  /-- An attempt has failed that is not the one under way. -/
  | forgets {cue : Cue} {generation : UInt64} {t : Turn} (failed : cue.failed? = some generation)
      (missed : ¬ m.awaits generation) (monitor : t.monitor = m) (pending : t.pending = none)
      (silent : announcements t.effects = []) :
      Takes m cue t
  /-- The monitor stops watching. -/
  | stops {cue : Cue} {t : Turn} (answered : cue.isAside) (phase : t.monitor.phase = .away)
      (generation : t.monitor.generation = m.generation + 1)
      (roster : t.monitor.roster = .empty)
      (pending : t.pending = m.phase.seat?.map (.releasing · .stopped))
      (announced : announcements t.effects = m.roster.workers.map (.offline ·.id))
      (room : t.monitor.room = m.room) : Takes m cue t
  /-- A listener is gone, and the room is left next. -/
  | releases {seat : Seat} {parting : Parting} {t : Turn} (monitor : t.monitor = m)
      (pending : t.pending = some (.leaving seat parting)) (silent : t.effects = []) :
      Takes m (.reply (.releasing seat parting) ()) t
  /-- The room is left. -/
  | leaves {seat : Seat} {parting : Parting} {t : Turn} (monitor : t.monitor = m)
      (pending : t.pending = none) (silent : announcements t.effects = []) :
      Takes m (.reply (.leaving seat parting) ()) t

namespace Monitor

/-- What is announced about workers who are gone together. -/
theorem announcements_clearing (m : Monitor) (r : Roster) (message : String) :
    announcements (m.clearing r.dismiss message) = r.workers.map (.offline ·.id) := by
  unfold clearing
  rw [announcements_append, Roster.announcements_dismiss]
  -- the entry about their number announces nobody
  split <;> exact List.append_nil _

/-- An attempt begins, unless the monitor is in the room or about to enter it. -/
theorem takes_tryEnter (m : Monitor) {cue : Cue} (h : cue.isAside) : m.Takes cue m.tryEnter := by
  unfold tryEnter
  split
  · next haway =>
    have was : m.phase = .away := by
      cases hp : m.phase <;> simp_all [Phase.isAway]
    exact .begins h was rfl rfl rfl
  · exact .aside h rfl rfl rfl rfl rfl rfl

/-- An attempt that is let in counts if it is the one under way. -/
theorem takes_arrive (m : Monitor) (generation : UInt64) (seat : Seat) :
    m.Takes (.reply (.entering generation seat) (.ok ())) (m.arrive generation seat) := by
  unfold arrive
  split
  · next h => exact .arrives h rfl rfl rfl
  · next h => exact .overtaken h rfl rfl rfl

/-- An attempt that has failed counts if it is the one under way. -/
theorem takes_fail (m : Monitor) {cue : Cue} {generation : UInt64} (refusal : Refusal)
    (h : cue.failed? = some generation) : m.Takes cue (m.fail generation refusal) := by
  unfold fail
  dsimp only
  split
  · next hawaited => exact .fails h hawaited rfl rfl (m.announcements_clearing m.roster _)
  · next hmissed => exact .forgets h hmissed rfl rfl rfl

/-- A monitor that stops watching forgets everybody, and gives up its seat if it has one. -/
theorem takes_goAway (m : Monitor) (isSubscribed : Bool) {cue : Cue} (h : cue.isAside) :
    m.Takes cue (goAway { m with isSubscribed }) := by
  refine .stops h rfl rfl rfl ?_ (announcements_clearing { m with isSubscribed } m.roster _) rfl
  -- only a monitor that is in the room has a seat to give up
  unfold goAway
  cases m.phase <;> rfl

/-- A notice counts if it tells of a status and its generation is heeded. -/
theorem takes_hear (m : Monitor) (generation : UInt64) (n : Notice) :
    m.Takes (.call (.notice generation n)) (m.hear generation n) := by
  unfold hear
  split
  · exact .aside rfl rfl rfl rfl rfl rfl rfl
  · next status htells =>
    split
    · next h =>
      refine .sees h htells rfl rfl ?_
      -- the entry about the notice announces nobody
      simp [announcements, noticeEntry]
    · exact .aside rfl rfl rfl rfl rfl rfl rfl

/-- Every turn is one of thirteen. -/
theorem takes_turn (m : Monitor) (cue : Cue) : m.Takes cue (m.turn cue) := by
  -- a turn goes by what the cue is and, at most, by what the monitor wants and where it is
  cases cue with
  | call c =>
    cases c with
    | init =>
      simp only [turn, Monitor.begin]
      split <;> exact .aside rfl rfl rfl rfl rfl rfl rfl
    | dispose =>
      simp only [turn, Monitor.begin]
      split
      · exact .aside rfl rfl rfl rfl rfl rfl rfl
      · exact m.takes_goAway false rfl
    | registration state =>
      simp only [turn, Monitor.begin]
      split
      · exact m.takes_tryEnter rfl
      · split
        · exact m.takes_goAway m.isSubscribed rfl
        · exact .aside rfl rfl rfl rfl rfl rfl rfl
    | notice generation n => exact m.takes_hear generation n
  | reply p r =>
    cases p with
    | subscribing =>
      simp only [turn, resume]
      split <;> exact .aside rfl rfl rfl rfl rfl rfl rfl
    | withdrawing _ => exact .aside rfl rfl rfl rfl rfl rfl rfl
    | probing =>
      simp only [turn, resume]
      split
      · exact m.takes_tryEnter rfl
      · exact .aside rfl rfl rfl rfl rfl rfl rfl
    | unsubscribing _ => exact m.takes_goAway m.isSubscribed rfl
    -- the replies to an attempt, as they follow each other
    | obtaining generation =>
      cases r with
      | ok room => exact .obtains rfl rfl rfl
      | error refusal => exact m.takes_fail refusal rfl
    | listening generation room => exact .listens rfl rfl rfl
    | entering generation seat =>
      cases r with
      | ok _ => exact m.takes_arrive generation seat
      | error refusal => exact .refused rfl rfl rfl
    | retreating generation _ refusal => exact m.takes_fail refusal rfl
    | releasing _ _ => exact .releases rfl rfl rfl
    | leaving _ parting => cases parting <;> exact .leaves rfl rfl rfl

end Monitor

/-! ## Seats on a call's hands -/

namespace Pending

/-- The seat whose listener is there, and whose removal the call has yet to ask for. -/
def held? : Pending → Option Seat
  | .entering _ seat => some seat
  | _ => none

/-- The seat whose listener the call asks to be removed. -/
def removed? : Pending → Option Seat
  | .retreating _ seat _ | .releasing seat _ => some seat
  | _ => none

/-- The seat that was let in, and that the call has yet to give up. -/
def occupied? : Pending → Option Seat
  | .releasing seat _ => some seat
  | _ => none

/-- The seat that the call gives up. -/
def vacated? : Pending → Option Seat
  | .leaving seat _ => some seat
  | _ => none

end Pending

namespace Cue

/-- The seat whose listener was just added. -/
def added? : Cue → Option Seat
  | .reply (.listening _ room) listener => some ⟨room, listener⟩
  | _ => none

/-- The listener for the registration that was just added. -/
def registered? : Cue → Option ListenerId
  | .reply .subscribing listener => some listener
  | _ => none

/-- The seat that was just let in. -/
def entered? : Cue → Option Seat
  | .reply (.entering _ seat) (.ok ()) => some seat
  | _ => none

end Cue

theorem Pending.seats_of_isAside {p : Option Pending} (h : p.all Pending.isAside) :
    p.bind held? = none ∧ p.bind removed? = none ∧ p.bind occupied? = none ∧
      p.bind vacated? = none := by
  cases p with
  | none => exact ⟨rfl, rfl, rfl, rfl⟩
  | some p => cases p <;> simp_all [isAside, held?, removed?, occupied?, vacated?]

theorem Cue.seats_of_isAside {cue : Cue} (h : cue.isAside) :
    cue.added? = none ∧ cue.entered? = none := by
  cases cue with
  | call _ => exact ⟨rfl, rfl⟩
  | reply p r => cases p <;> simp_all [isAside, answered, Pending.isAside, added?, entered?]

/-- An attempt fails when it does not get the room, or when its listener is gone again. -/
theorem Cue.of_failed? {cue : Cue} {generation : UInt64} (h : cue.failed? = some generation) :
    (∃ refusal, cue = .reply (.obtaining generation) (.error refusal)) ∨
      ∃ seat refusal, cue = .reply (.retreating generation seat refusal) () := by
  unfold failed? at h
  split at h
  · next refusal => exact .inl ⟨refusal, by simp_all⟩
  · next seat refusal _ => exact .inr ⟨seat, refusal, by simp_all⟩
  · simp at h

namespace Monitor

theorem awaits_iff (m : Monitor) (generation : UInt64) :
    m.awaits generation = true ↔ m.generation = generation ∧ m.phase = .joining := by
  simp [awaits]

theorem heeds_iff (m : Monitor) (generation : UInt64) :
    m.heeds generation = true ↔ m.generation = generation ∧ m.phase ≠ .away := by
  cases hp : m.phase <;> simp [heeds, hp, Phase.isAway]

/-- No seat gets lost. Whose listener was there before a turn, or has just been added, has it
    afterwards, on the hands of the call or of the monitor, or its removal is asked for. Who was in
    the room, or has just been let in, is there afterwards, or gives the place up. -/
theorem seats_turn (m : Monitor) (cue : Cue) :
    (cue.added?.toList ++ (cue.answered.bind Pending.held?).toList ++ m.phase.seat?.toList).Perm
      (((m.turn cue).pending.bind Pending.removed?).toList ++
        ((m.turn cue).pending.bind Pending.held?).toList ++
        (m.turn cue).monitor.phase.seat?.toList) ∧
    (cue.entered?.toList ++ (cue.answered.bind Pending.occupied?).toList ++
        m.phase.seat?.toList).Perm
      (((m.turn cue).pending.bind Pending.vacated?).toList ++
        ((m.turn cue).pending.bind Pending.occupied?).toList ++
        (m.turn cue).monitor.phase.seat?.toList) := by
  have h := m.takes_turn cue
  generalize m.turn cue = t at h
  cases h with
  | aside answered asks phase =>
    -- no seat before, none after
    obtain ⟨hadded, hentered⟩ := Cue.seats_of_isAside answered
    obtain ⟨hheld, -, hoccupied, -⟩ := Pending.seats_of_isAside answered
    obtain ⟨hheld', hremoved', hoccupied', hvacated'⟩ := Pending.seats_of_isAside asks
    rw [hadded, hheld, hheld', hremoved', hentered, hoccupied, hoccupied', hvacated', phase]
    exact ⟨.refl _, .refl _⟩
  | begins answered was monitor pending =>
    obtain ⟨hadded, hentered⟩ := Cue.seats_of_isAside answered
    obtain ⟨hheld, -, hoccupied, -⟩ := Pending.seats_of_isAside answered
    rw [hadded, hheld, hentered, hoccupied, was, monitor, pending]
    exact ⟨.refl _, .refl _⟩
  | arrives awaited monitor pending =>
    -- the seat goes from the call to the monitor, which has none as long as it is about to enter
    obtain ⟨-, hjoining⟩ := (m.awaits_iff _).1 awaited
    rw [hjoining, monitor, pending]
    exact ⟨.refl _, .refl _⟩
  | fails failed awaited monitor pending =>
    obtain ⟨-, hjoining⟩ := (m.awaits_iff _).1 awaited
    rw [hjoining, monitor, pending]
    rcases Cue.of_failed? failed with ⟨_, rfl⟩ | ⟨_, _, rfl⟩ <;> exact ⟨.refl _, .refl _⟩
  | forgets failed missed monitor pending =>
    rw [monitor, pending]
    rcases Cue.of_failed? failed with ⟨_, rfl⟩ | ⟨_, _, rfl⟩ <;> exact ⟨.refl _, .refl _⟩
  | stops answered phase generation roster pending =>
    obtain ⟨hadded, hentered⟩ := Cue.seats_of_isAside answered
    obtain ⟨hheld, -, hoccupied, -⟩ := Pending.seats_of_isAside answered
    rw [hadded, hheld, hentered, hoccupied, phase, pending]
    -- the seat goes from the monitor to the call, if there is one
    cases m.phase <;> exact ⟨.refl _, .refl _⟩
  | sees heeds tells monitor pending
  | obtains monitor pending | listens monitor pending | overtaken missed monitor pending
  | refused monitor pending | releases monitor pending | leaves monitor pending =>
    -- the seat stays with the call, or is given up
    rw [monitor, pending]
    exact ⟨.refl _, .refl _⟩

/-- A seat is on a call's hands from the turn on in which its listener has been added. -/
theorem held?_turn (m : Monitor) (cue : Cue) :
    (m.turn cue).pending.bind Pending.held? = cue.added? := by
  have h := m.takes_turn cue
  generalize m.turn cue = t at h
  cases h with
  | aside answered asks =>
    obtain ⟨hadded, -⟩ := Cue.seats_of_isAside answered
    obtain ⟨hheld, -⟩ := Pending.seats_of_isAside asks
    rw [hadded, hheld]
  | begins answered _ _ pending =>
    obtain ⟨hadded, -⟩ := Cue.seats_of_isAside answered
    rw [hadded, pending]
    rfl
  | stops answered _ _ _ pending =>
    obtain ⟨hadded, -⟩ := Cue.seats_of_isAside answered
    rw [hadded, pending]
    cases m.phase <;> rfl
  | fails failed _ _ pending | forgets failed _ _ pending =>
    rw [pending]
    rcases Cue.of_failed? failed with ⟨_, rfl⟩ | ⟨_, _, rfl⟩ <;> rfl
  | sees _ _ _ pending | obtains _ pending | listens _ pending | arrives _ _ pending
  | overtaken _ _ pending | refused _ pending | releases _ pending | leaves _ pending =>
    rw [pending]
    rfl

end Monitor

/-! ## Rooms on a call's hands -/

/-- The room that a question is put to. -/
def Pending.room? : Pending → Option RoomRef
  | .listening _ room => some room
  | .entering _ seat | .retreating _ seat _ | .releasing seat _ | .leaving seat _ => some seat.room
  | .subscribing | .withdrawing _ | .probing | .unsubscribing _ | .obtaining _ => none

/-- The room that a reply comes with, or comes from. -/
def Cue.room? : Cue → Option RoomRef
  | .reply (.obtaining _) (.ok room) => some room
  | .reply p _ => p.room?
  | .call _ => none

theorem Pending.room?_of_isAside {p : Option Pending} (h : p.all Pending.isAside) :
    p.bind room? = none := by
  cases p with
  | none => rfl
  | some p => cases p <;> simp_all [isAside, room?]

/-- What a monitor watches stays the same. -/
theorem Monitor.room_turn (m : Monitor) (cue : Cue) : (m.turn cue).monitor.room = m.room := by
  have h := m.takes_turn cue
  generalize m.turn cue = t at h
  cases h with
  | aside _ _ _ _ _ _ room | stops _ _ _ _ _ _ room => exact room
  | sees _ _ monitor | begins _ _ monitor | obtains monitor | listens monitor | arrives _ monitor
  | overtaken _ monitor | refused monitor | fails _ _ monitor | forgets _ _ monitor
  | releases monitor | leaves monitor => rw [monitor]

/-- A monitor knows no rooms but those it was given. -/
theorem Monitor.rooms_turn (m : Monitor) (cue : Cue) (room : RoomRef)
    (h : (m.turn cue).pending.bind Pending.room? = some room ∨
      (m.turn cue).monitor.phase.seat?.map Seat.room = some room) :
    cue.room? = some room ∨ m.phase.seat?.map Seat.room = some room := by
  have htakes := m.takes_turn cue
  generalize m.turn cue = t at h htakes
  cases htakes with
  | aside _ asks phase =>
    rw [Pending.room?_of_isAside asks, phase] at h
    exact .inr (h.resolve_left (by simp))
  | begins _ _ monitor pending | fails _ _ monitor pending =>
    rw [pending, monitor] at h
    rcases h with h | h <;> cases h
  | stops _ phase _ _ pending =>
    rw [pending, phase] at h
    rcases h with h | h
    · -- the room that is to be left is the one the monitor was in
      right
      cases hseat : m.phase.seat? <;> simp_all [Pending.room?]
    · cases h
  | sees _ _ monitor pending | forgets _ _ monitor pending | leaves monitor pending =>
    rw [pending, monitor] at h
    exact .inr (h.resolve_left (by simp))
  | arrives _ monitor pending =>
    rw [pending, monitor] at h
    exact .inl (h.resolve_left (by simp))
  | obtains monitor pending | listens monitor pending | overtaken _ monitor pending
  | refused monitor pending | releases monitor pending =>
    rw [pending, monitor] at h
    exact h

/-! ## Attempts -/

/-- The generation of the attempt that a call makes. -/
def Pending.attempt? : Pending → Option UInt64
  | .obtaining generation | .listening generation _ | .entering generation _
  | .retreating generation _ _ => some generation
  | _ => none

theorem Pending.attempt?_of_isAside {p : Option Pending} (h : p.all Pending.isAside) :
    p.bind attempt? = none := by
  cases p with
  | none => rfl
  | some p => cases p <;> simp_all [isAside, attempt?]

namespace Monitor

/-- A monitor that is about to enter has a call that is at it: one that was at it before the turn
    and is not the one that took the turn, or the one that took it. -/
theorem attempt_turn (m : Monitor) (cue : Cue) (h : (m.turn cue).monitor.phase = .joining) :
    (m.turn cue).pending.bind Pending.attempt? = some (m.turn cue).monitor.generation ∨
      (m.phase = .joining ∧ (m.turn cue).monitor.generation = m.generation ∧
        cue.answered.bind Pending.attempt? ≠ some m.generation) := by
  have htakes := m.takes_turn cue
  generalize m.turn cue = t at h htakes
  cases htakes with
  | aside answered asks phase generation =>
    refine .inr ⟨phase ▸ h, generation, ?_⟩
    rw [Pending.attempt?_of_isAside answered]
    simp
  | sees heeds tells monitor =>
    rw [monitor] at h ⊢
    exact .inr ⟨h, rfl, by simp [Cue.answered]⟩
  | begins answered was monitor pending =>
    left
    rw [monitor, pending]
    rfl
  | @obtains generation _ _ monitor pending | @listens generation _ _ _ monitor pending
  | @refused generation _ _ _ monitor pending =>
    subst monitor
    -- the attempt that goes on is the one under way, or one that was left behind
    by_cases hg : generation = t.monitor.generation
    · left
      rw [pending, ← hg]
      rfl
    · exact .inr ⟨h, rfl, by simpa [Cue.answered, Pending.attempt?] using hg⟩
  | arrives awaited monitor => simp [monitor] at h
  | @overtaken generation _ _ missed monitor =>
    subst monitor
    have hg : generation ≠ t.monitor.generation := fun hg =>
      missed ((awaits_iff _ _).2 ⟨hg.symm, h⟩)
    exact .inr ⟨h, rfl, by simpa [Cue.answered, Pending.attempt?] using hg⟩
  | fails failed awaited monitor => simp [monitor] at h
  | @forgets _ generation _ failed missed monitor =>
    subst monitor
    have hg : generation ≠ t.monitor.generation := fun hg =>
      missed ((awaits_iff _ _).2 ⟨hg.symm, h⟩)
    refine .inr ⟨h, rfl, ?_⟩
    rcases Cue.of_failed? failed with ⟨_, rfl⟩ | ⟨_, _, rfl⟩ <;>
      simpa [Cue.answered, Pending.attempt?] using hg
  | stops answered phase => simp [phase] at h
  | releases monitor | leaves monitor =>
    subst monitor
    exact .inr ⟨h, rfl, by simp [Cue.answered, Pending.attempt?]⟩

end Monitor

end WorkerRoster
