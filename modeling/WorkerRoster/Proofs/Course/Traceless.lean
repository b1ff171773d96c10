import WorkerRoster.Proofs.Course.Announced
import WorkerRoster.Proofs.Course.Attempt
import WorkerRoster.Proofs.Lasting

/-!
# Attempts That Do Not Win

An attempt comes to its end when the room has let it in, or when it has failed and its listener is
gone. By then its generation may be the latest or not: while it waited the monitor may have stopped
watching, and other attempts may have begun and ended. An attempt with an older generation leaves no
trace in the monitor, and has nothing left to do but to give up its seat. One with the latest finds
the monitor still about to enter; if it has failed, it takes everybody it met along, and the next
registration starts from the beginning.

## Main statements

- `Course.Thread.since`: what holds of all questions of a call from one turn on
- `Course.Reachable.away_since`: after a failure the monitor is away until an attempt begins
- `Course.Reachable.traceless`: what an attempt leaves behind that does not win
-/

set_option autoImplicit false

namespace WorkerRoster

/-! ## The end of an attempt -/

namespace Pending

/-- Whether all that is left to do is to give up a seat. -/
def isParting : Pending → Bool
  | .releasing _ _ | .leaving _ _ => true
  | _ => false

/-- The seat that a call has to do with. -/
def seat? : Pending → Option Seat
  | .entering _ seat | .retreating _ seat _ | .releasing seat _ | .leaving seat _ => some seat
  | _ => none

end Pending

namespace Cue

/-- The generation of an attempt that is at its end: it was let in, or has failed for good. -/
def concluded? : Cue → Option UInt64
  | .reply (.entering generation _) (.ok ()) => some generation
  | cue => cue.failed?

/-- The seat whose listener was just removed. -/
def removed? : Cue → Option Seat
  | .reply (.retreating _ seat _) _ | .reply (.releasing seat _) _ => some seat
  | _ => none

/-- An attempt is at its end when it was let in, or has failed for good. -/
theorem of_concluded? {cue : Cue} {generation : UInt64} (h : cue.concluded? = some generation) :
    (∃ seat, cue = .reply (.entering generation seat) (.ok ())) ∨
      cue.failed? = some generation := by
  unfold concluded? at h
  split at h
  · next seat =>
    cases h
    exact .inl ⟨seat, rfl⟩
  · exact .inr h

/-- An attempt that has failed for good is at its end. -/
theorem concluded?_of_failed? {cue : Cue} {generation : UInt64}
    (h : cue.failed? = some generation) : cue.concluded? = some generation := by
  rcases of_failed? h with ⟨_, rfl⟩ | ⟨_, _, rfl⟩ <;> exact h

/-- An attempt that is at its end has waited for a reply with its generation. -/
theorem attempt?_of_concluded? {cue : Cue} {generation : UInt64}
    (h : cue.concluded? = some generation) :
    cue.answered.bind Pending.attempt? = some generation := by
  rcases of_concluded? h with ⟨_, rfl⟩ | hfailed
  · rfl
  · rcases of_failed? hfailed with ⟨_, rfl⟩ | ⟨_, _, rfl⟩ <;> rfl

theorem not_isAside_of_concluded? {cue : Cue} {generation : UInt64}
    (h : cue.concluded? = some generation) : ¬ cue.isAside := by
  rcases of_concluded? h with ⟨_, rfl⟩ | hfailed
  · exact Bool.false_ne_true
  · rcases of_failed? hfailed with ⟨_, rfl⟩ | ⟨_, _, rfl⟩ <;> exact Bool.false_ne_true

theorem seat?_of_isAside {cue : Cue} (h : cue.isAside) :
    cue.answered.bind Pending.seat? = none := by
  cases cue with
  | call _ => rfl
  | reply p r => cases p <;> simp_all [isAside, answered, Pending.isAside, Pending.seat?]

/-- An attempt that has failed for good adds no listener. -/
theorem added?_of_failed? {cue : Cue} {generation : UInt64}
    (h : cue.failed? = some generation) : cue.added? = none := by
  rcases of_failed? h with ⟨_, rfl⟩ | ⟨_, _, rfl⟩ <;> rfl

/-- What an attempt has failed for good with is that its listener is gone, if it had one. -/
theorem removed?_of_failed? {cue : Cue} {generation : UInt64} {seat : Seat}
    (h : cue.failed? = some generation) (on : cue.answered.bind Pending.seat? = some seat) :
    cue.removed? = some seat := by
  rcases of_failed? h with ⟨_, rfl⟩ | ⟨_, _, rfl⟩
  · cases on
  · exact on

end Cue

namespace Episode

variable {e : Episode} {generation : UInt64}

/-- Whether a turn changes nothing in the monitor, announces nothing, and leaves nothing to do but
    to give up a seat. -/
def IsTraceless (e : Episode) : Prop :=
  e.turn.monitor = e.monitor ∧ e.announced = [] ∧ e.turn.pending.all Pending.isParting

/-- An attempt that is at its end, and is not the one under way, changes nothing, and has nothing
    left to do but to give up its seat. -/
theorem isTraceless_of_missed (h : e.cue.concluded? = some generation)
    (missed : ¬ e.monitor.awaits generation) : e.IsTraceless := by
  have htakes := e.takes
  unfold IsTraceless announced
  generalize e.turn = t at htakes ⊢
  generalize e.cue = cue at htakes h
  cases htakes with
  | aside answered | begins answered | stops answered =>
    exact absurd answered (Cue.not_isAside_of_concluded? h)
  | arrives awaited =>
    cases h
    exact absurd awaited missed
  | fails failed awaited =>
    cases (Cue.concluded?_of_failed? failed).symm.trans h
    exact absurd awaited missed
  | overtaken _ monitor pending silent =>
    refine ⟨monitor, ?_, ?_⟩
    · rw [silent]
      rfl
    · rw [pending]
      rfl
  | forgets _ _ monitor pending silent =>
    refine ⟨monitor, silent, ?_⟩
    rw [pending]
    rfl
  | sees | obtains | listens | refused | releases | leaves => cases h

/-- When the attempt under way has failed, everybody is gone, and there is nothing left to do. -/
theorem of_failed (h : e.cue.failed? = some generation) (awaited : e.monitor.awaits generation) :
    e.turn.monitor.phase = .away ∧ e.turn.monitor.roster = .empty ∧ e.turn.pending = none ∧
      e.announced = e.monitor.roster.workers.map (.offline ·.id) := by
  have htakes := e.takes
  unfold announced
  generalize e.turn = t at htakes ⊢
  generalize e.cue = cue at htakes h
  cases htakes with
  | aside answered | begins answered | stops answered =>
    exact absurd answered (Cue.not_isAside_of_concluded? (Cue.concluded?_of_failed? h))
  | fails _ _ monitor pending announced =>
    rw [monitor]
    exact ⟨rfl, rfl, pending, announced⟩
  | forgets failed missed =>
    cases failed.symm.trans h
    exact absurd awaited missed
  | sees | obtains | listens | refused | arrives | overtaken | releases | leaves => cases h

/-- A call that gives up a seat changes nothing, and has nothing else left to do. -/
theorem isTraceless_of_isParting {p : Pending} {r : p.Reply} (hcue : e.cue = .reply p r)
    (h : p.isParting) : e.IsTraceless := by
  have htakes := e.takes
  unfold IsTraceless announced
  generalize e.turn = t at htakes ⊢
  rw [hcue] at htakes
  cases p with
  | releasing seat parting =>
    cases htakes with
    | aside answered | begins answered | stops answered => cases answered
    | fails failed | forgets failed => cases failed
    | releases monitor pending silent =>
      refine ⟨monitor, ?_, ?_⟩
      · rw [silent]
        rfl
      · rw [pending]
        rfl
  | leaving seat parting =>
    cases htakes with
    | aside answered | begins answered | stops answered => cases answered
    | fails failed | forgets failed => cases failed
    | leaves monitor pending silent =>
      refine ⟨monitor, silent, ?_⟩
      rw [pending]
      rfl
  | subscribing | withdrawing _ | probing | unsubscribing _ | obtaining _ | listening _ _
  | entering _ _ | retreating _ _ _ => cases h

/-- A call goes on with the seat that it has to do with. -/
theorem seat?_turn {seat : Seat} (h : e.cue.answered.bind Pending.seat? = some seat) :
    ∀ q, e.turn.pending = some q → q.seat? = some seat := by
  have htakes := e.takes
  generalize e.turn = t at htakes ⊢
  generalize e.cue = cue at htakes h
  intro q hq
  cases htakes with
  | aside answered | begins answered | stops answered =>
    cases (Cue.seat?_of_isAside answered).symm.trans h
  | overtaken _ _ pending | refused _ pending | releases _ pending =>
    cases pending.symm.trans hq
    exact h
  | arrives _ _ pending | fails _ _ _ pending | forgets _ _ _ pending | leaves _ pending =>
    cases pending.symm.trans hq
  | sees | obtains | listens => cases h

/-- A call that has added a listener goes on with its seat. -/
theorem seat?_of_added? {seat : Seat} (h : e.cue.added? = some seat) :
    ∀ q, e.turn.pending = some q → q.seat? = some seat := by
  have htakes := e.takes
  generalize e.turn = t at htakes ⊢
  generalize e.cue = cue at htakes h
  intro q hq
  cases htakes with
  | aside answered | begins answered | stops answered =>
    obtain ⟨hadded, -⟩ := Cue.seats_of_isAside answered
    cases hadded.symm.trans h
  | fails failed | forgets failed => cases (Cue.added?_of_failed? failed).symm.trans h
  | listens _ pending =>
    cases pending.symm.trans hq
    exact h
  | sees | obtains | arrives | overtaken | refused | releases | leaves => cases h

/-- A monitor that is away stays away until an attempt begins. -/
theorem away_turn (was : e.monitor.phase = .away) (h : ¬ e.isStart) :
    e.turn.monitor.phase = .away := by
  have htakes := e.takes
  have hasks : e.asks = e.turn.pending.map (·.request e.monitor.room) := rfl
  generalize e.turn = t at htakes hasks ⊢
  generalize e.cue = cue at htakes
  cases htakes with
  | aside _ _ phase => exact phase.trans was
  | sees heeds => exact absurd was ((e.monitor.heeds_iff _).1 heeds).2
  | begins _ _ _ pending =>
    rw [pending] at hasks
    exact absurd (decide_eq_true hasks) h
  | arrives awaited =>
    rw [((e.monitor.awaits_iff _).1 awaited).2] at was
    cases was
  | fails _ _ monitor => rw [monitor]
  | stops _ phase => exact phase
  | obtains monitor | listens monitor | overtaken _ monitor | refused monitor | forgets _ _ monitor
  | releases monitor | leaves monitor => rw [monitor, was]

end Episode

namespace Course

variable {room : String} {c : Course}

/-! ## The rest of a call -/

/-- What is true of the question that a turn ends with, and goes over from each question of the call
    to the next, is true of all its questions from then on. -/
theorem Thread.since {P : Pending → Prop} {es : List Episode} {p : Option Pending} (h : Thread es p)
    (goesOver : ∀ (e : Episode) (p : Pending) (r : p.Reply), e.cue = .reply p r → P p →
      ∀ q, e.turn.pending = some q → P q)
    {before after : List Episode} {e : Episode} (hsplit : es = before ++ e :: after)
    (first : ∀ q, e.turn.pending = some q → P q) :
    (∀ q, p = some q → P q) ∧ ∀ x ∈ after, ∃ q r, x.cue = .reply q r ∧ P q := by
  induction h generalizing after with
  | @begins e' _ _ =>
    obtain ⟨rfl, hrest⟩ : before = [] ∧ [e'] = e :: after := by
      cases before with
      | nil => exact ⟨rfl, hsplit⟩
      | cons _ _ => simp at hsplit
    cases hrest
    exact ⟨first, by simp⟩
  | @goesOn es p e' r _ cue ih =>
    -- the turn is the last one, or there was one more since
    rcases split_concat hsplit with ⟨rfl, -, rfl⟩ | ⟨rest, rfl, hes⟩
    · exact ⟨first, by simp⟩
    · obtain ⟨hp, hafter⟩ := ih hes
      refine ⟨goesOver e' p r cue (hp p rfl), fun x hx => ?_⟩
      rcases List.mem_append.1 hx with hx | hx
      · exact hafter x hx
      · rw [List.mem_singleton.1 hx]
        exact ⟨p, r, cue, hp p rfl⟩

/-- A turn of a run is a turn of its call's thread, and the later turns of the call come after it
    there. -/
theorem thread_split {before after : List Episode} {e : Episode}
    (hsplit : c.history = before ++ e :: after) :
    c.thread e.call =
      before.filter (·.call = e.call) ++ e :: after.filter (·.call = e.call) := by
  simp [thread, hsplit, List.filter_append]

/-- What is true of the question that a turn of a run ends with, and goes over from each question of
    the call to the next, is true of all questions of the call from then on. -/
theorem Reachable.since {P : Pending → Prop} (h : Reachable room c)
    (goesOver : ∀ (e : Episode) (p : Pending) (r : p.Reply), e.cue = .reply p r → P p →
      ∀ q, e.turn.pending = some q → P q)
    {before after : List Episode} {e : Episode} (hsplit : c.history = before ++ e :: after)
    (first : ∀ q, e.turn.pending = some q → P q) :
    ∀ x ∈ after, x.call = e.call → ∃ q r, x.cue = .reply q r ∧ P q := by
  obtain ⟨p, hthread⟩ := h.exists_thread (e := e) (by simp [hsplit])
  obtain ⟨-, hafter⟩ := hthread.since goesOver (thread_split hsplit) first
  exact fun x hx hcall => hafter x (List.mem_filter.2 ⟨hx, decide_eq_true hcall⟩)

/-- After a turn that leaves no trace, whatever the call does later only gives up its seat. -/
theorem Reachable.isTraceless_since (h : Reachable room c) {before after : List Episode}
    {e : Episode} (hsplit : c.history = before ++ e :: after) (traceless : e.IsTraceless) :
    ∀ x ∈ after, x.call = e.call → x.IsTraceless := by
  have hparting : ∀ y : Episode, y.IsTraceless → ∀ q, y.turn.pending = some q → q.isParting := by
    rintro y ⟨-, -, hall⟩ q hq
    rw [hq] at hall
    exact hall
  intro x hx hcall
  obtain ⟨q, r, hcue, hq⟩ := h.since (P := fun q => q.isParting)
    (fun y p r hcue hp => hparting y (Episode.isTraceless_of_isParting hcue hp)) hsplit
    (hparting e traceless) x hx hcall
  exact Episode.isTraceless_of_isParting hcue hq

/-! ## Listeners of an attempt -/

/-- Whether a listener that a call has added in a room is there. -/
def IsIn (call : Nat) (seat : Seat) (es : List Episode) : Prop :=
  Lasts (fun x => x.call = call ∧ x.cue.added? = some seat) (fun x => x.cue.removed? = some seat) es

/-- The listener of an attempt that has failed is not there any more. -/
theorem Reachable.not_isIn_of_failed? (h : Reachable room c) {before after : List Episode}
    {e : Episode} {generation : UInt64} (hsplit : c.history = before ++ e :: after)
    (failed : e.cue.failed? = some generation) (seat : Seat) :
    ¬ IsIn e.call seat (before ++ [e]) := by
  rintro ⟨front, a, back, hfront, ⟨hcall, hadded⟩, hstays⟩
  rcases split_concat hfront with ⟨-, -, rfl⟩ | ⟨back, rfl, hbefore⟩
  · -- the turn in which an attempt has failed is not the one in which a listener is added
    cases (Cue.added?_of_failed? failed).symm.trans hadded
  · -- the call has gone on with its seat since, and fails with its listener gone
    have hwhole : c.history = front ++ a :: (back ++ e :: after) := by simp [hsplit, hbefore]
    obtain ⟨q, r, hcue, hseat⟩ := h.since (P := fun q => q.seat? = some seat)
      (fun x p r hcue hp => x.seat?_turn (by simpa [hcue, Cue.answered] using hp)) hwhole
      (a.seat?_of_added? hadded) e (by simp) hcall.symm
    have hremoved : e.cue.removed? = some seat :=
      Cue.removed?_of_failed? failed (by simpa [hcue, Cue.answered] using hseat)
    exact hstays e (by simp) hremoved

/-! ## After a failure -/

/-- After the attempt under way has failed, the monitor is away until an attempt begins. -/
theorem Reachable.away_since (h : Reachable room c) {before after : List Episode} {e : Episode}
    (hsplit : c.history = before ++ e :: after) (away : e.turn.monitor.phase = .away)
    (quiet : ∀ x ∈ after, ¬ x.isStart) : c.monitor.phase = .away := by
  induction h generalizing after with
  | start => simp at hsplit
  | @step c c' _ hstep ih =>
    obtain ⟨call, cue, front, back, rfl, -⟩ := hstep.exists_advance
    rcases split_concat hsplit with ⟨-, -, rfl⟩ | ⟨rest, rfl, hhistory⟩
    · exact away
    · have was := ih hhistory fun x hx => quiet x (by simp [hx])
      exact Episode.away_turn (e := ⟨call, c.monitor, cue⟩) was (quiet _ (by simp))

/-- The generation of an attempt that begins is none that an attempt had before, unless the counter
    has come round. -/
theorem Reachable.generation_fresh (h : Reachable room c) (wraps : c.rises + 1 < UInt64.size)
    (x : Call) (hstart : (⟨c.calls, c.monitor, .call x⟩ : Episode).isStart) {start : Episode}
    (hmem : start ∈ c.history) (hbegan : start.isStart) :
    (c.begin x).monitor.generation ≠ start.turn.monitor.generation := by
  obtain ⟨before, between, hsplit⟩ := List.append_of_mem hmem
  obtain ⟨-, -, hnext⟩ := Episode.of_isStart hstart
  have hrise := Episode.isRise_of_eq hnext
  have hwraps : (c.begin x).rises < UInt64.size := by
    simpa [rises, begin, advance, List.countP_append, hrise] using wraps
  have hlast : (c.begin x).history =
      before ++ start :: (between ++ ⟨c.calls, c.monitor, .call x⟩ :: []) := by
    simp [begin, advance, hsplit]
  exact (h.step (.begin x)).generation_ne hwraps hlast hbegan hrise

/-! ## What is left behind -/

/-- What an attempt leaves behind that does not win. If its generation is not the latest when it is
    at its end, neither that turn nor a later one of its call changes the monitor or announces
    anything, and all that is left to do is to give up its seat. If its generation is the latest,
    the monitor is still about to enter; and if the attempt has failed then, the monitor is away and
    knows nobody, everybody it knew is announced to be gone, once and in order, and the attempt has
    no listener in a room; and unless an attempt has begun since, the next registration begins one,
    with a generation that no attempt had before. Only if the counter has come round may the latest
    generation be that of an attempt that is not under way, and that one leaves no trace either. -/
theorem Reachable.traceless (h : Reachable room c) {before after : List Episode} {e : Episode}
    {generation : UInt64} (hsplit : c.history = before ++ e :: after)
    (concluded : e.cue.concluded? = some generation) :
    (e.monitor.generation ≠ generation → ∀ x ∈ e :: after, x.call = e.call → x.IsTraceless) ∧
    (e.monitor.generation = generation →
      e.monitor.phase = .joining ∧
        (e.cue.failed? = some generation →
          e.turn.monitor.phase = .away ∧ e.turn.monitor.roster = .empty ∧ e.turn.pending = none ∧
          e.announced = e.monitor.roster.workers.map (.offline ·.id) ∧ e.announced.Nodup ∧
          (∀ seat, ¬ IsIn e.call seat (before ++ [e])) ∧
          ((∀ x ∈ after, ¬ x.isStart) → ∀ state : Registration, state.isUp →
            (⟨c.calls, c.monitor, .call (.registration state)⟩ : Episode).isStart ∧
            (c.begin (.registration state)).monitor.phase = .joining ∧
            (c.rises + 1 < UInt64.size → ∀ start ∈ c.history, start.isStart →
              (c.begin (.registration state)).monitor.generation ≠
                start.turn.monitor.generation))) ∨
      UInt64.size ≤ before.countP (·.isRise) ∧ e.monitor.phase ≠ .joining ∧
        ∀ x ∈ e :: after, x.call = e.call → x.IsTraceless) := by
  have hmissed : ¬ e.monitor.awaits generation →
      ∀ x ∈ e :: after, x.call = e.call → x.IsTraceless := by
    intro missed x hx hcall
    have htraceless := Episode.isTraceless_of_missed concluded missed
    rcases List.mem_cons.1 hx with rfl | hx
    · exact htraceless
    · exact h.isTraceless_since hsplit htraceless x hx hcall
  refine ⟨fun hne => hmissed fun awaited => hne ((e.monitor.awaits_iff _).1 awaited).1, ?_⟩
  rintro rfl
  by_cases joining : e.monitor.phase = .joining
  case neg =>
    -- the latest generation is that of the attempt under way, as long as no two have the same
    refine .inr ⟨Nat.le_of_not_lt fun wraps => joining ?_, joining, hmissed fun awaited => ?_⟩
    · exact h.joining_of_latest hsplit wraps (Cue.attempt?_of_concluded? concluded)
    · exact joining ((e.monitor.awaits_iff _).1 awaited).2
  case pos =>
    refine .inl ⟨joining, fun failed => ?_⟩
    have awaited := (e.monitor.awaits_iff _).2 ⟨rfl, joining⟩
    obtain ⟨hphase, hroster, hpending, hannounced⟩ := Episode.of_failed failed awaited
    refine ⟨hphase, hroster, hpending, hannounced, ?once, h.not_isIn_of_failed? hsplit failed,
      ?next⟩
    case once =>
      obtain ⟨c₀, hreachable, -, hmonitor, -⟩ := h.exists_before hsplit
      have hdistinct : (e.monitor.roster.workers.map (·.id)).Nodup :=
        hmonitor ▸ hreachable.isDistinct
      rw [hannounced]
      -- different workers are announced to be gone by different announcements
      refine List.pairwise_map.2 ((List.pairwise_map.1 hdistinct).imp fun hne heq => hne ?_)
      exact Announcement.offline.inj heq
    case next =>
      intro quiet state hup
      have haway := h.away_since hsplit hphase quiet
      have hturn : c.monitor.begin (.registration state) = c.monitor.tryEnter := by
        simp [Monitor.begin, hup]
      have hstart : (⟨c.calls, c.monitor, .call (.registration state)⟩ : Episode).isStart := by
        simp [Episode.isStart, Episode.asks, Episode.turn, Monitor.turn, hturn, Monitor.tryEnter,
          haway, Phase.isAway, Pending.request]
      refine ⟨hstart, ?_, fun wraps start hmem hbegan => ?_⟩
      · simp [begin, advance, Episode.turn, Monitor.turn, hturn, Monitor.tryEnter, haway,
          Phase.isAway]
      · exact h.generation_fresh wraps _ hstart hmem hbegan

/-- A first attempt is overtaken by the loss of the registration and by a second attempt, which
    meets a worker and is refused. The first one is let in after that. -/
theorem Reachable.traceless_overtaken :
    ∃ c, Reachable "brewery" c ∧ c.waiting = [] ∧
      (∃ before e after, c.history = before ++ e :: after ∧ e.call = 0 ∧ after.length = 2 ∧
        e.cue.concluded? = some 1 ∧ e.monitor.generation ≠ 1 ∧
        ∀ x ∈ e :: after, x.call = 0 → x.IsTraceless) ∧
      ∃ before e after, c.history = before ++ e :: after ∧ e.cue.failed? = some 3 ∧
        e.monitor.generation = 3 ∧ e.monitor.phase = .joining ∧ e.announced = [.offline ⟨"b"⟩] ∧
        e.turn.monitor.roster = .empty ∧
        ¬ IsIn e.call ⟨⟨0⟩, ⟨3⟩⟩ (before ++ [e]) ∧
        (c.begin (.registration .registered)).monitor.generation = 5 ∧
        ∀ start ∈ c.history, start.isStart → start.turn.monitor.generation ≠ 5 := by
  have h : Reachable "brewery" _ := .start
  replace h := h.step (.begin (.registration .registered))
  replace h := h.step (.resume [] [] rfl (.ok ⟨0⟩ : Except Refusal RoomRef))
  replace h := h.step (.resume [] [] rfl (⟨2⟩ : ListenerId))
  replace h := h.step (.begin (.registration .unregistered))
  -- the second attempt
  replace h := h.step (.begin (.registration .registered))
  replace h := h.step (.resume [] [_] rfl (.ok ⟨0⟩ : Except Refusal RoomRef))
  replace h := h.step (.resume [] [_] rfl (⟨3⟩ : ListenerId))
  replace h := h.step (.begin (.notice 3 ⟨.joined, ⟨⟨"b"⟩, some (.announcing .busy)⟩⟩))
  replace h := h.step (.resume [] [_] rfl (.error (.entry "full") : Except Refusal Unit))
  replace h := h.step (.resume [] [_] rfl ())
  -- the first goes on
  replace h := h.step (.resume [] [] rfl (.ok () : Except Refusal Unit))
  replace h := h.step (.resume [] [] rfl ())
  replace h := h.step (.resume [] [] rfl ())
  have hmissed :=
    (@Reachable.traceless _ _ h [_, _, _, _, _, _, _, _, _, _] _ _ 1 rfl rfl).1 (by decide)
  obtain ⟨hjoining, hfailed⟩ :=
    ((@Reachable.traceless _ _ h [_, _, _, _, _, _, _, _, _] _ _ 3 rfl rfl).2 rfl).resolve_right
      fun hwrapped => absurd hwrapped.1 (by decide)
  obtain ⟨-, hroster, -, hannounced, -, hlistener, hnext⟩ := hfailed rfl
  refine ⟨_, h, rfl,
    ⟨[_, _, _, _, _, _, _, _, _, _], _, [_, _], rfl, rfl, rfl, rfl, by decide, hmissed⟩,
    [_, _, _, _, _, _, _, _, _], _, [_, _, _], rfl, rfl, rfl, hjoining, hannounced, hroster,
    hlistener _, rfl, ?_⟩
  obtain ⟨-, -, hfresh⟩ := hnext (by decide) .registered rfl
  exact fun start hmem hstart => (hfresh (by decide) start hmem hstart).symm

end Course

end WorkerRoster
