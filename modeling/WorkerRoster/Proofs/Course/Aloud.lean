import WorkerRoster.Proofs.Course.Announced
import WorkerRoster.Proofs.Delivery

/-!
# A Monitor That Speaks for Itself

A monitor leaves what it has to say to others, so it cannot know what became of it. Here a monitor
is described that speaks to the bus itself, in the middle of its turns: it announces a worker as
soon as it has seen it, says farewell to one worker after the other while it stops watching, and
hears each time whether the bus took the announcement. It could do as it likes then.

It does what the other one does. Whatever the bus takes or refuses, and whatever happens meanwhile,
a monitor goes through the same phases and generations, knows the same workers, asks the same
questions, and makes the same announcements.

## Main statements

- `Monitor.amountsTo_turnAloud`: a turn taken aloud is the turn, with its effects carried out
- `Duty.proceedings_play?`: work done aloud is a course of events
- `Duty.play_alike`: no bus makes a difference
-/

set_option autoImplicit false

namespace WorkerRoster

open Outlet (Work)

/-! ## Turns taken aloud -/

/-- What a turn comes to. -/
structure Report where
  /-- The monitor after the turn. -/
  monitor : Monitor
  /-- What the call waits for then. -/
  pending : Option Pending := none
  /-- What was done about a worker that was seen. -/
  outcome : Option Outcome := none
  deriving DecidableEq

/-- What a turn comes to in which nobody is seen. -/
def Turn.report (t : Turn) : Report where
  monitor := t.monitor
  pending := t.pending

namespace Monitor

/-- What is done in a turn about a worker that is seen. -/
def outcome? (m : Monitor) : Cue → Option Outcome
  | .call (.notice generation n) =>
    if m.heeds generation then
      n.status?.map fun status => (m.roster.track n.occupant.id status).outcome
    else none
  | _ => none

/-- What a turn comes to. -/
def report (m : Monitor) (cue : Cue) : Report :=
  { (m.turn cue).report with outcome := m.outcome? cue }

section Aloud

variable {β : Type} (bus : Bus β)

/-- Dismiss everybody, and write down how many they were. -/
def forgetAloud (m : Monitor) (message : String) : Work β Roster := do
  let (left, n) ← m.roster.dismissAloud bus
  if 0 < n then
    bus.speak (m.roomEntry .info message [("drained", .whole n)])
  return left

/-- Hear a notice. -/
def hearAloud (m : Monitor) (generation : UInt64) (n : Notice) : Work β Report :=
  match n.status? with
  | none => do
    bus.speak (noticeEntry n "presence without worker status" "kind" n.kind.name)
    return { monitor := m }
  | some status => do
    if m.heeds generation then
      let seen ← m.roster.trackAloud bus n.occupant.id status
      bus.speak (noticeEntry n "presence processed" "outcome" seen.2.name)
      return { monitor := { m with roster := seen.1 }, outcome := some seen.2 }
    else
      bus.speak (noticeEntry n "dropping notification from a left room" "kind" n.kind.name)
      return { monitor := m }

/-- An attempt was not let in. -/
def failAloud (m : Monitor) (generation : UInt64) (refusal : Refusal) : Work β Report := do
  bus.speak (m.failureEntry refusal)
  if m.awaits generation then
    let roster ← m.forgetAloud bus "cleared workers seen during failed join"
    return { monitor := { m with phase := .away, generation := m.generation + 1, roster } }
  else
    return { monitor := m }

/-- Stop watching the room. -/
def goAwayAloud (m : Monitor) : Work β Report := do
  let roster ← m.forgetAloud bus "cleared known workers"
  return {
    monitor := { m with phase := .away, generation := m.generation + 1, roster }
    pending := m.phase.seat?.map (.releasing · .stopped) }

/-- A turn in which nothing is announced. -/
def takeAloud (t : Turn) : Work β Report := do
  bus.speakAll t.effects
  return t.report

/-- Take a turn. -/
def turnAloud (m : Monitor) : Cue → Work β Report
  | .call (.notice generation n) => m.hearAloud bus generation n
  | .call (.registration state) =>
    if state.isUp then takeAloud bus m.tryEnter
    else if state.isDown then m.goAwayAloud bus
    else takeAloud bus (m.begin (.registration state))
  | .call .dispose =>
    match m.subscription with
    | some _ => takeAloud bus (m.begin .dispose)
    | none => goAwayAloud bus { m with isSubscribed := false }
  | .call .init => takeAloud bus (m.begin .init)
  | .reply (.unsubscribing _) _ => m.goAwayAloud bus
  | .reply (.obtaining generation) (.error refusal) => m.failAloud bus generation refusal
  | .reply (.retreating generation _ refusal) _ => m.failAloud bus generation refusal
  | .reply p r => takeAloud bus (m.resume p r)

end Aloud

variable {β : Type} {bus : Bus β}

theorem amountsTo_forgetAloud (m : Monitor) (message : String) :
    (m.forgetAloud bus message).AmountsTo bus m.roster.dismiss.roster
      (m.clearing m.roster.dismiss message) := by
  refine (Roster.amountsTo_dismissAloud bus m.roster).bind ?_
  -- the entry about their number comes last, if there is one
  dsimp only
  split
  · exact (Work.amountsTo_pure _).afterSpeak _
  · exact Work.amountsTo_pure _

theorem amountsTo_takeAloud (t : Turn) :
    (takeAloud bus t).AmountsTo bus t.report t.effects :=
  (Work.amountsTo_speakAll t.effects).returning fun _ => _

theorem amountsTo_hearAloud (m : Monitor) (generation : UInt64) (n : Notice) :
    (m.hearAloud bus generation n).AmountsTo bus (m.report (.call (.notice generation n)))
      (m.hear generation n).effects := by
  cases htells : n.status? with
  | none =>
    simp only [hearAloud, report, Turn.report, outcome?, turn, Monitor.begin, hear, htells]
    cases m.heeds generation <;> exact (Work.amountsTo_pure _).afterSpeak _
  | some status =>
    cases hheeds : m.heeds generation with
    | false =>
      simp only [hearAloud, report, Turn.report, outcome?, turn, Monitor.begin, hear, htells,
        hheeds]
      exact (Work.amountsTo_pure _).afterSpeak _
    | true =>
      simp only [hearAloud, report, Turn.report, outcome?, turn, Monitor.begin, hear, htells,
        hheeds]
      refine (Roster.amountsTo_trackAloud bus m.roster _ _).bind ?_
      exact (Work.amountsTo_pure _).afterSpeak _

theorem amountsTo_failAloud (m : Monitor) (generation : UInt64) (refusal : Refusal) :
    (m.failAloud bus generation refusal).AmountsTo bus (m.fail generation refusal).report
      (m.fail generation refusal).effects := by
  unfold failAloud fail
  dsimp only
  split
  · exact ((m.amountsTo_forgetAloud _).returning fun _ => _).afterSpeak _
  · exact (Work.amountsTo_pure _).afterSpeak _

theorem amountsTo_goAwayAloud (m : Monitor) :
    (m.goAwayAloud bus).AmountsTo bus m.goAway.report m.goAway.effects := by
  have hpending : m.goAway.pending = m.phase.seat?.map (.releasing · .stopped) := by
    unfold goAway
    cases m.phase <;> rfl
  unfold Turn.report
  rw [hpending]
  exact (m.amountsTo_forgetAloud _).returning fun _ => _

/-- A turn taken aloud comes to what the turn comes to, and says what the turn has to say. -/
theorem amountsTo_turnAloud (m : Monitor) (cue : Cue) :
    (m.turnAloud bus cue).AmountsTo bus (m.report cue) (m.turn cue).effects := by
  cases cue with
  | call c =>
    cases c with
    | init => exact amountsTo_takeAloud _
    | dispose =>
      simp only [turnAloud, report, outcome?, turn, Monitor.begin]
      cases m.subscription with
      | some listener => exact amountsTo_takeAloud _
      | none => exact amountsTo_goAwayAloud _
    | registration state =>
      simp only [turnAloud, report, outcome?, turn, Monitor.begin]
      split
      · exact amountsTo_takeAloud _
      · split
        · exact amountsTo_goAwayAloud _
        · exact amountsTo_takeAloud _
    | notice generation n => exact m.amountsTo_hearAloud generation n
  | reply p r =>
    cases p with
    | unsubscribing _ => exact m.amountsTo_goAwayAloud
    | obtaining generation =>
      cases r with
      | ok room => exact amountsTo_takeAloud _
      | error refusal => exact m.amountsTo_failAloud generation refusal
    | retreating generation _ refusal => exact m.amountsTo_failAloud generation refusal
    | subscribing | withdrawing _ | probing | listening _ _ | entering _ _ | releasing _ _
    | leaving _ _ => exact amountsTo_takeAloud _

end Monitor

/-! ## Runs -/

/-- What happens to a monitor from outside. -/
inductive Prompt where
  /-- A call begins. -/
  | call (c : Call)
  /-- The call that waits at a place gets its reply. -/
  | reply (place : Nat) (p : Pending) (r : p.Reply)

/-- What can be seen of a monitor's work, but for what the bus took. -/
structure Proceedings where
  monitor : Monitor
  /-- What the calls wait for that are under way. -/
  waiting : List Pending
  /-- What the turns came to, in order. -/
  reports : List Report
  /-- What was asked, in order. -/
  requests : List Request
  /-- What was announced, in order. -/
  offered : List Announcement

namespace Course

/-- What can be seen of a course of events. -/
def proceedings (c : Course) : Proceedings where
  monitor := c.monitor
  waiting := c.waiting.map (·.pending)
  reports := c.history.map fun e => e.monitor.report e.cue
  requests := c.history.filterMap (·.asks)
  offered := c.announced

/-- How a course of events goes on, if there is a call that the prompt is for. -/
def follow? (c : Course) : Prompt → Option Course
  | .call x => some (c.begin x)
  | .reply place p r =>
    match c.waiting[place]? with
    | some w =>
      if w.pending = p then
        some (c.advance w.call (.reply p r) (c.waiting.take place) (c.waiting.drop (place + 1)))
      else none
    | none => none

/-- What a prompt leads to is a step. -/
theorem step_of_follow? {c c' : Course} {prompt : Prompt} (h : c.follow? prompt = some c') :
    c.Step c' := by
  cases prompt with
  | call x =>
    cases h
    exact .begin x
  | reply place p r =>
    simp only [follow?] at h
    split at h
    · next w hw =>
      split at h
      · next hp =>
        cases h
        subst hp
        refine .resume _ _ ?_ r
        obtain ⟨hlt, rfl⟩ := List.getElem?_eq_some_iff.1 hw
        rw [← List.drop_eq_getElem_cons hlt, List.take_append_drop]
      · cases h
    · cases h

/-- How a course of events goes on along a script. -/
def followAll? (c : Course) : List Prompt → Option Course
  | [] => some c
  | prompt :: rest => (c.follow? prompt).bind (followAll? · rest)

theorem Reachable.followAll? {room : String} {c c' : Course} {script : List Prompt}
    (h : Reachable room c) (hscript : c.followAll? script = some c') : Reachable room c' := by
  induction script generalizing c with
  | nil =>
    cases hscript
    exact h
  | cons prompt rest ih =>
    obtain ⟨c₁, hstep, hrest⟩ := Option.bind_eq_some_iff.1 hscript
    exact ih (h.step (step_of_follow? hstep)) hrest

end Course

/-- A monitor that works before a bus, with the calls that wait and what the turns came to so
    far. -/
structure Duty (β : Type) where
  monitor : Monitor
  waiting : List Pending := []
  reports : List Report := []
  outlet : Outlet β

namespace Duty

variable {β : Type} (bus : Bus β)

/-- Take a turn aloud. -/
def advance (d : Duty β) (cue : Cue) (front back : List Pending) : Duty β :=
  let (report, outlet) := (d.monitor.turnAloud bus cue).run d.outlet
  { monitor := report.monitor
    waiting := front ++ report.pending.toList ++ back
    reports := d.reports ++ [report]
    outlet }

/-- Do what a prompt asks for, if there is a call that it is for. -/
def follow? (d : Duty β) : Prompt → Option (Duty β)
  | .call x => some (d.advance bus (.call x) [] d.waiting)
  | .reply place p r =>
    if d.waiting[place]? = some p then
      some (d.advance bus (.reply p r) (d.waiting.take place) (d.waiting.drop (place + 1)))
    else none

/-- Work along a script. -/
def play? (d : Duty β) : List Prompt → Option (Duty β)
  | [] => some d
  | prompt :: rest => (d.follow? bus prompt).bind (play? · rest)

/-- A new monitor for a room, before a bus in some state. -/
def start (room : String) (state : β) : Duty β where
  monitor := { room }
  outlet := { state }

/-- What can be seen of work done aloud, but for what the bus took. -/
def proceedings (d : Duty β) : Proceedings where
  monitor := d.monitor
  waiting := d.waiting
  reports := d.reports
  requests := d.reports.filterMap fun r => r.pending.map (·.request r.monitor.room)
  offered := WorkerRoster.offered d.outlet.deeds

/-- What can be seen of a turn taken aloud is what can be seen of the turn. -/
theorem proceedings_advance {d : Duty β} {c : Course} (h : d.proceedings = c.proceedings)
    (call : Nat) (cue : Cue) (front back : List Waiting) :
    (d.advance bus cue (front.map (·.pending)) (back.map (·.pending))).proceedings =
      (c.advance call cue front back).proceedings := by
  simp only [proceedings, Course.proceedings, Proceedings.mk.injEq] at h ⊢
  obtain ⟨hmonitor, -, hreports, hrequests, hoffered⟩ := h
  have hwork : (d.monitor.turnAloud bus cue).run d.outlet = _ :=
    d.monitor.amountsTo_turnAloud cue d.outlet
  rw [hmonitor] at hwork
  simp only [advance, hmonitor, hwork]
  refine ⟨rfl, ?waiting, ?reports, ?requests, ?offered⟩
  case waiting =>
    simp only [Course.advance, Monitor.report, Turn.report, Episode.turn, List.map_append]
    cases (c.monitor.turn cue).pending <;> rfl
  case reports => simp [Course.advance, hreports]
  case requests =>
    -- the room is the same after the turn
    have hroom : (c.monitor.turn cue).monitor.room = c.monitor.room := c.monitor.room_turn cue
    simp [Course.advance, hrequests, List.filterMap_cons, Episode.asks, Episode.turn,
      Monitor.report, Turn.report, hroom]
  case offered =>
    simp [Outlet.offered_after, hoffered, Course.announced, Course.advance, Episode.announced,
      Episode.turn]

/-- What can be seen of a prompt that is heeded aloud is what can be seen of a step. -/
theorem proceedings_follow? {d : Duty β} {c : Course} (h : d.proceedings = c.proceedings)
    (prompt : Prompt) :
    Option.Rel (fun d c => d.proceedings = c.proceedings) (d.follow? bus prompt)
      (c.follow? prompt) := by
  have hwaiting : d.waiting = c.waiting.map (·.pending) := congrArg Proceedings.waiting h
  cases prompt with
  | call x =>
    simp only [follow?, Course.follow?, hwaiting]
    exact .some (proceedings_advance bus h c.calls (.call x) [] c.waiting)
  | reply place p r =>
    simp only [follow?, Course.follow?, hwaiting, List.getElem?_map]
    cases c.waiting[place]? with
    | none => exact .none
    | some w =>
      by_cases hp : w.pending = p
      · simp only [Option.map_some, Option.some.injEq, if_pos hp, ← List.map_take,
          ← List.map_drop]
        exact .some (proceedings_advance bus h w.call (.reply p r) _ _)
      · simp only [Option.map_some, Option.some.injEq, if_neg hp]
        exact .none

/-- Work done aloud is a course of events. -/
theorem proceedings_play? {d : Duty β} {c : Course} (h : d.proceedings = c.proceedings)
    (script : List Prompt) :
    (d.play? bus script).map proceedings = (c.followAll? script).map Course.proceedings := by
  -- as long as the same can be seen of both, a prompt fits both or neither
  induction script generalizing d c with
  | nil => simp [play?, Course.followAll?, h]
  | cons prompt rest ih =>
    have hnext := proceedings_follow? bus h prompt
    simp only [play?, Course.followAll?]
    generalize d.follow? bus prompt = next, c.follow? prompt = next' at hnext ⊢
    cases hnext with
    | none => rfl
    | some h => exact ih h

/-- No bus makes a difference. Before two buses, whatever either takes or refuses, the same happens
    from outside to a new monitor's work aloud: it fits or it does not, and where it fits, the
    monitor goes through the same phases and generations, knows the same workers after each turn,
    has the same outcome of each observation, waits for the same replies, asks the same questions
    and makes the same announcements. What it goes through is a course of events. -/
theorem play_alike {β₁ β₂ : Type} (bus₁ : Bus β₁) (bus₂ : Bus β₂) (state₁ : β₁) (state₂ : β₂)
    (room : String) (script : List Prompt) :
    ((start room state₁).play? bus₁ script).map proceedings =
        ((start room state₂).play? bus₂ script).map proceedings ∧
      ∀ d, (start room state₁).play? bus₁ script = some d →
        ∃ c, Course.Reachable room c ∧ c.proceedings = d.proceedings := by
  have hplay : ∀ {β : Type} (bus : Bus β) (state : β),
      ((start room state).play? bus script).map proceedings =
        (({ monitor := { room } } : Course).followAll? script).map Course.proceedings :=
    fun bus state => proceedings_play? bus (d := start room state) rfl script
  refine ⟨(hplay bus₁ state₁).trans (hplay bus₂ state₂).symm, fun d hd => ?_⟩
  have hcourse := hplay bus₁ state₁
  rw [hd, Option.map_some] at hcourse
  obtain ⟨c, hc, hproceedings⟩ := Option.map_eq_some_iff.1 hcourse.symm
  exact ⟨c, Course.Reachable.start.followAll? hc, hproceedings⟩

/-- A worker is met before the room refuses the attempt, and is said farewell then. One bus takes
    both announcements, the other takes none. -/
theorem play_alike_refused :
    let script : List Prompt :=
      [.call (.registration .registered),
       .reply 0 (.obtaining 1) (.ok ⟨0⟩ : Except Refusal RoomRef),
       .reply 0 (.listening 1 ⟨0⟩) (⟨7⟩ : ListenerId),
       .call (.notice 1 ⟨.joined, ⟨⟨"w"⟩, some (.announcing .idle)⟩⟩),
       .reply 0 (.entering 1 ⟨⟨0⟩, ⟨7⟩⟩) (.error (.entry "full") : Except Refusal Unit),
       .reply 0 (.retreating 1 ⟨⟨0⟩, ⟨7⟩⟩ (.entry "full")) ()]
    ∃ d₁ d₂,
      (start "brewery" ()).play? ⟨fun s _ => (s, .ok ())⟩ script = some d₁ ∧
      (start "brewery" ()).play? ⟨fun s _ => (s, .error .noSubscribers)⟩ script = some d₂ ∧
      offers d₁.outlet.deeds = [(.availability ⟨"w"⟩ true, true), (.offline ⟨"w"⟩, true)] ∧
      offers d₂.outlet.deeds = [(.availability ⟨"w"⟩ true, false), (.offline ⟨"w"⟩, false)] ∧
      d₁.reports.map (·.monitor.roster.size) = [0, 0, 0, 1, 1, 0] ∧
      d₁.proceedings = d₂.proceedings ∧
      ∃ c, Course.Reachable "brewery" c ∧ c.proceedings = d₁.proceedings := by
  intro script
  obtain ⟨halike, hcourse⟩ := play_alike ⟨fun s _ => (s, .ok ())⟩
    ⟨fun s _ => (s, .error .noSubscribers)⟩ () () "brewery" script
  exact ⟨_, _, rfl, rfl, by decide, by decide, by decide, Option.some.inj halike, hcourse _ rfl⟩

end Duty

end WorkerRoster
