import WorkerRoster.Proofs.Course

/-!
# When an Attempt Is Over

The listener that an attempt adds in a room stays there for a while after the attempt is over, and
may be kept by the room for as long as it likes. What comes through it is told apart by its
generation, which must never become the latest one again. It does not, because the generation goes
up when an attempt begins and in every turn that can end one, and because all that a call asks for
an attempt carries the generation with which the attempt began.

## Main statements

- `Course.Reachable.generation_eq`: the generation counts the turns in which it went up
- `Course.Reachable.joining_of_latest`: the attempt with the latest generation is under way
- `Course.Thread.isTagged`: a call makes one attempt, whose questions all carry its generation
- `Course.Reachable.over_silent`: nothing comes through the listener of an attempt that is over
- `Course.Reachable.over_silent_fails`: no attempt is over just because its monitor is disposed of
-/

set_option autoImplicit false

namespace WorkerRoster

/-! ## The generation -/

/-- A turn leaves the generation as it is, or raises it. -/
theorem Monitor.generation_turn (m : Monitor) (cue : Cue) :
    (m.turn cue).monitor.generation = m.generation ∨
      (m.turn cue).monitor.generation = m.generation + 1 := by
  have htakes := m.takes_turn cue
  generalize m.turn cue = t at htakes
  cases htakes with
  | aside _ _ _ generation => exact .inl generation
  | begins _ _ monitor | fails _ _ monitor => exact .inr (monitor ▸ rfl)
  | stops _ _ generation => exact .inr generation
  | sees _ _ monitor | obtains monitor | listens monitor | arrives _ monitor | overtaken _ monitor
  | refused monitor | forgets _ _ monitor | releases monitor | leaves monitor =>
    exact .inl (monitor ▸ rfl)

/-- What a turn can make of a call's attempt, which is known by its generation before and after the
    turn, and of the monitor. -/
inductive Monitor.Attempts (m : Monitor) : Option UInt64 → Option UInt64 → Monitor → Prop where
  /-- The attempt begins, with a generation that is one up. -/
  | begins {m' : Monitor} (generation : m'.generation = m.generation + 1)
      (phase : m'.phase = .joining) : Attempts m none (some (m.generation + 1)) m'
  /-- The call makes no attempt after the turn, and the generation goes up. -/
  | ends {before : Option UInt64} {m' : Monitor} (generation : m'.generation = m.generation + 1) :
      Attempts m before none m'
  /-- The attempt with the latest generation is at its end. -/
  | arrives {m' : Monitor} (generation : m'.generation = m.generation) :
      Attempts m (some m.generation) none m'
  /-- The attempt goes on or is at its end, and the monitor is where it was. -/
  | stays {before after : Option UInt64} {m' : Monitor} (generation : m'.generation = m.generation)
      (phase : m'.phase = m.phase) (goesOn : after = none ∨ after = before) :
      Attempts m before after m'

/-- A turn begins an attempt, ends one, or lets it go on. -/
theorem Monitor.attempts_turn (m : Monitor) (cue : Cue) :
    m.Attempts (cue.answered.bind Pending.attempt?) ((m.turn cue).pending.bind Pending.attempt?)
      (m.turn cue).monitor := by
  have htakes := m.takes_turn cue
  generalize m.turn cue = t at htakes ⊢
  cases htakes with
  | aside _ asks phase generation =>
    rw [Pending.attempt?_of_isAside asks]
    exact .stays generation phase (.inl rfl)
  | begins answered _ monitor pending =>
    rw [Pending.attempt?_of_isAside answered, monitor, pending]
    exact .begins rfl rfl
  | arrives awaited monitor pending =>
    obtain ⟨rfl, -⟩ := (m.awaits_iff _).1 awaited
    rw [monitor, pending]
    exact .arrives rfl
  | fails _ _ monitor pending =>
    rw [monitor, pending]
    exact .ends rfl
  | stops _ _ generation _ pending =>
    -- what is asked is to release a seat, if anything
    have hnone : t.pending.bind Pending.attempt? = none := by
      rw [pending]
      cases m.phase.seat? <;> rfl
    rw [hnone]
    exact .ends generation
  | obtains monitor pending | listens monitor pending | refused monitor pending =>
    rw [monitor, pending]
    exact .stays rfl rfl (.inr rfl)
  | sees _ _ monitor pending | overtaken _ monitor pending | forgets _ _ monitor pending
  | releases monitor pending | leaves monitor pending =>
    rw [monitor, pending]
    exact .stays rfl rfl (.inl rfl)

/-- A notice of a generation that does not count changes nothing. -/
theorem Monitor.hear_of_not_heeds (m : Monitor) {generation : UInt64}
    (h : m.heeds generation = false) (n : Notice) :
    (m.hear generation n).monitor = m ∧ announcements (m.hear generation n).effects = [] ∧
      (m.hear generation n).pending = none := by
  unfold hear
  split
  · exact ⟨rfl, rfl, rfl⟩
  · rw [h]
    exact ⟨rfl, rfl, rfl⟩

namespace Episode

/-- Whether the generation goes up. -/
def isRise (e : Episode) : Bool :=
  e.turn.monitor.generation ≠ e.monitor.generation

/-- Whether an attempt begins. -/
def isStart (e : Episode) : Bool :=
  e.asks = some (.obtainRoom e.monitor.room)

/-- Whether the monitor stops watching: it hears that the registration is gone, or it is disposed
    of, and its listener for the registration is gone by then. -/
def isStop (e : Episode) : Bool :=
  match e.cue with
  | .call (.registration state) => !state.isUp && state.isDown
  | .call .dispose => e.monitor.subscription.isNone
  | .reply (.unsubscribing _) _ => true
  | _ => false

/-- Whether the attempt under way has failed, and the monitor is away again. -/
def isFailure (e : Episode) : Bool :=
  e.cue.failed?.isSome && e.monitor.phase = .joining && e.turn.monitor.phase = .away

theorem isRise_of_eq {e : Episode} (h : e.turn.monitor.generation = e.monitor.generation + 1) :
    e.isRise := by
  simp [isRise, h]

/-- The generation after a turn counts it if it went up. -/
theorem generation_turn (e : Episode) :
    e.turn.monitor.generation = e.monitor.generation + if e.isRise then 1 else 0 := by
  rcases e.monitor.generation_turn e.cue with h | h
  · have hrise : e.isRise = false := by simp [isRise, turn, h]
    simp [hrise, turn, h]
  · rw [if_pos (isRise_of_eq h)]
    exact h

/-- A call that begins an attempt asks for the room, with a generation that is one up. -/
theorem of_isStart {e : Episode} (h : e.isStart) :
    e.turn.pending = some (.obtaining e.turn.monitor.generation) ∧ e.cue.isAside ∧
      e.turn.monitor.generation = e.monitor.generation + 1 := by
  -- nobody else asks for the room
  have hasks : ∃ generation, e.turn.pending = some (.obtaining generation) := by
    simp only [isStart, asks, decide_eq_true_eq, Option.map_eq_some_iff] at h
    obtain ⟨p, hp, hrequest⟩ := h
    cases p <;> simp_all [Pending.request]
  obtain ⟨generation, hpending⟩ := hasks
  have htakes := e.takes
  generalize e.turn = t at htakes hpending
  generalize e.cue = cue at htakes
  cases htakes with
  | begins answered _ monitor pending => exact ⟨by rw [pending, monitor], answered, by rw [monitor]⟩
  | aside _ asks => simp [Turn.isAside, hpending, Pending.isAside] at asks
  | stops _ _ _ _ pending =>
    -- what it asks is to release a seat, if anything
    rw [pending] at hpending
    cases hseat : e.monitor.phase.seat? <;> simp [hseat] at hpending
  | sees _ _ _ pending | obtains _ pending | listens _ pending | arrives _ _ pending
  | overtaken _ _ pending | refused _ pending | fails _ _ _ pending | forgets _ _ _ pending
  | releases _ pending | leaves _ pending => simp [pending] at hpending

/-- A call that begins an attempt asks for something that has to do with the room. -/
theorem not_isAside_of_isStart {e : Episode} (h : e.isStart) : ¬ e.turn.isAside := by
  obtain ⟨hpending, -⟩ := of_isStart h
  simp [Turn.isAside, hpending, Pending.isAside]

/-- What has nothing to do with the room is asked only after such questions. -/
theorem isAside_cue {e : Episode} {p : Pending} (h : e.turn.pending = some p) (haside : p.isAside) :
    e.cue.isAside := by
  have htakes := e.takes
  generalize e.turn = t at htakes h
  generalize e.cue = cue at htakes
  cases htakes with
  | aside answered | begins answered | stops answered => exact answered
  | sees _ _ _ pending | obtains _ pending | listens _ pending | arrives _ _ pending
  | overtaken _ _ pending | refused _ pending | fails _ _ _ pending | forgets _ _ _ pending
  | releases _ pending | leaves _ pending =>
    rw [pending] at h
    cases h <;> cases haside

/-- An attempt goes on with the generation that it has. -/
theorem attempt?_cue {e : Episode} {generation : UInt64}
    (h : e.turn.pending.bind Pending.attempt? = some generation) (hnot : ¬ e.cue.isAside) :
    e.cue.answered.bind Pending.attempt? = some generation := by
  have htakes := e.takes
  generalize e.turn = t at htakes h
  generalize e.cue = cue at htakes hnot ⊢
  cases htakes with
  | aside answered | begins answered | stops answered => exact absurd answered hnot
  | obtains _ pending | listens _ pending | refused _ pending =>
    rw [pending] at h
    exact h
  | sees _ _ _ pending | arrives _ _ pending | overtaken _ _ pending | fails _ _ _ pending
  | forgets _ _ _ pending | releases _ pending | leaves _ pending =>
    rw [pending] at h
    cases h

theorem attempt?_of_asks {e : Episode} {room : RoomRef} {generation : UInt64}
    (h : e.asks = some (.addRoomListener room generation)) :
    e.turn.pending.bind Pending.attempt? = some generation := by
  obtain ⟨p, hp, hrequest⟩ := Option.map_eq_some_iff.1 h
  rw [hp]
  cases p <;> simp_all [Pending.request, Pending.attempt?]

/-- When the monitor stops watching, the generation goes up. -/
theorem isRise_of_isStop {e : Episode} (h : e.isStop) : e.isRise := by
  apply isRise_of_eq
  obtain ⟨_, m, cue⟩ := e
  unfold isStop at h
  split at h
  · next state hcue =>
    cases hcue
    obtain ⟨hup, hdown⟩ : state.isUp = false ∧ state.isDown = true := by simpa using h
    simp [turn, Monitor.turn, Monitor.begin, hup, hdown, Monitor.goAway]
  · next hcue =>
    cases hcue
    have hnone : m.subscription = none := by simpa using h
    simp [turn, Monitor.turn, Monitor.begin, hnone, Monitor.goAway]
  · next hcue =>
    cases hcue
    rfl
  · cases h

/-- When the attempt under way has failed, the generation goes up. -/
theorem isRise_of_isFailure {e : Episode} (h : e.isFailure) : e.isRise := by
  apply isRise_of_eq
  simp only [isFailure, Bool.and_eq_true, decide_eq_true_eq] at h
  obtain ⟨⟨hfailed, hjoining⟩, haway⟩ := h
  have htakes := e.takes
  generalize e.turn = t at htakes haway
  generalize e.cue = cue at htakes hfailed
  cases htakes with
  | fails _ _ monitor => rw [monitor]
  | stops _ _ generation => exact generation
  -- in all other turns the phase stays as it was, or is another one
  | begins _ was => simp [hjoining] at was
  | aside _ _ phase => simp [phase, hjoining] at haway
  | arrives _ monitor => simp [monitor] at haway
  | sees _ _ monitor | obtains monitor | listens monitor | overtaken _ monitor | refused monitor
  | forgets _ _ monitor | releases monitor | leaves monitor => simp [monitor, hjoining] at haway

end Episode

namespace Course

variable {room : String} {c : Course}

/-- In how many turns the generation went up. -/
def rises (c : Course) : Nat :=
  c.history.countP (·.isRise)

theorem rises_advance (c : Course) (call : Nat) (cue : Cue) (front back : List Waiting) :
    (c.advance call cue front back).rises =
      c.rises + if (⟨call, c.monitor, cue⟩ : Episode).isRise then 1 else 0 := by
  simp [rises, advance, List.countP_append, List.countP_singleton]

/-- The generation counts the turns in which it went up. -/
theorem Reachable.generation_eq (h : Reachable room c) :
    c.monitor.generation = UInt64.ofNat c.rises := by
  induction h with
  | start => rfl
  | @step c c' _ hstep ih =>
    obtain ⟨call, cue, front, back, rfl, -⟩ := hstep.exists_advance
    rw [rises_advance, UInt64.ofNat_add, ← ih]
    refine (Episode.generation_turn ⟨call, c.monitor, cue⟩).trans ?_
    split <;> rfl

/-! ## Attempts that wait -/

/-- Whether attempts that wait are told apart by their generations, after the counter went up a
    number of times, and whether the one with the latest is the one under way. -/
structure IsStaggered (n : Nat) (m : Monitor) (gs : List UInt64) : Prop where
  generation : m.generation = UInt64.ofNat n
  /-- Every attempt has a generation that was reached. -/
  reached : ∀ generation ∈ gs, ∃ k ≤ n, generation = UInt64.ofNat k
  /-- No two have the same. -/
  distinct : gs.Nodup
  /-- While the one with the latest waits, the monitor is about to enter. -/
  latest : m.generation ∈ gs → m.phase = .joining

section

variable {n : Nat} {m m' : Monitor} {gs others : List UInt64}

/-- No attempt has the generation that comes next, unless the counter comes round. -/
theorem IsStaggered.fresh (h : IsStaggered n m gs) (wraps : n + 1 < UInt64.size) :
    m.generation + 1 ∉ gs := by
  intro hmem
  obtain ⟨k, hle, heq⟩ := h.reached _ hmem
  have hnat := congrArg UInt64.toNat heq
  simp only [h.generation, UInt64.toNat_add, UInt64.toNat_ofNat', UInt64.toNat_one] at hnat
  simp only [UInt64.size] at wraps
  omega

/-- Attempts are still told apart when some of them do not wait any more. -/
theorem IsStaggered.of_sublist (h : IsStaggered n m gs) (sub : others.Sublist gs)
    (generation : m'.generation = m.generation) (phase : m'.phase = m.phase) :
    IsStaggered n m' others where
  generation := generation.trans h.generation
  reached g hg := h.reached g (sub.subset hg)
  distinct := h.distinct.sublist sub
  latest hlatest := phase.trans (h.latest (generation ▸ sub.subset hlatest))

/-- When the generation goes up, no attempt has the latest. -/
theorem IsStaggered.rise (h : IsStaggered n m gs) (sub : others.Sublist gs)
    (generation : m'.generation = m.generation + 1) (wraps : n + 1 < UInt64.size) :
    IsStaggered (n + 1) m' others where
  generation := by
    rw [generation, h.generation, UInt64.ofNat_add]
    rfl
  reached g hg := by
    obtain ⟨k, hle, heq⟩ := h.reached g (sub.subset hg)
    exact ⟨k, by omega, heq⟩
  distinct := h.distinct.sublist sub
  latest hlatest := absurd (sub.subset (generation ▸ hlatest)) (h.fresh wraps)

/-- A turn keeps attempts apart, unless the counter comes round. -/
theorem IsStaggered.turn {front back : List UInt64} {before after : Option UInt64} {n' : Nat}
    (h : IsStaggered n m (front ++ before.toList ++ back)) (turn : m.Attempts before after m')
    (rises : n' = n + if m'.generation ≠ m.generation then 1 else 0) (wraps : n' < UInt64.size) :
    IsStaggered n' m' (front ++ after.toList ++ back) := by
  have hleft : (front ++ back).Sublist (front ++ before.toList ++ back) := by simp
  cases turn with
  | begins generation phase =>
    have hn : n' = n + 1 := by simp [rises, generation]
    subst hn
    have hothers := h.rise hleft generation wraps
    have hfresh := h.fresh wraps
    -- the new one is told apart from those that waited before
    have hnew : m.generation + 1 ∉ front ++ back := fun hmem => hfresh (hleft.subset hmem)
    refine ⟨hothers.generation, fun g hg => ?_, ?_, fun _ => phase⟩
    · simp only [Option.toList_some, List.append_assoc, List.mem_append, List.mem_singleton] at hg
      rcases hg with hg | rfl | hg
      · exact hothers.reached g (by simp [hg])
      · exact ⟨n + 1, Nat.le_refl _, generation.symm.trans hothers.generation⟩
      · exact hothers.reached g (by simp [hg])
    · rw [Option.toList_some, List.append_assoc, List.singleton_append]
      exact List.perm_middle.nodup_iff.2 (List.nodup_cons.2 ⟨hnew, hothers.distinct⟩)
  | ends generation =>
    have hn : n' = n + 1 := by simp [rises, generation]
    subst hn
    rw [Option.toList_none, List.append_nil]
    exact h.rise hleft generation wraps
  | arrives generation =>
    have hn : n' = n := by simp [rises, generation]
    subst hn
    rw [Option.toList_none, List.append_nil]
    refine ⟨generation.trans h.generation, fun g hg => h.reached g (hleft.subset hg),
      h.distinct.sublist hleft, fun hlatest => ?_⟩
    -- another attempt with the same generation would have waited beside it
    have hdistinct := h.distinct
    rw [Option.toList_some, List.append_assoc, List.singleton_append] at hdistinct
    obtain ⟨hnot, -⟩ := List.nodup_cons.1 (List.perm_middle.nodup hdistinct)
    rw [generation] at hlatest
    exact absurd hlatest hnot
  | stays generation phase goesOn =>
    have hn : n' = n := by simp [rises, generation]
    subst hn
    refine h.of_sublist ?_ generation phase
    rcases goesOn with rfl | rfl
    · rw [Option.toList_none, List.append_nil]
      exact hleft
    · exact List.Sublist.refl _

end

/-- The generations of the attempts that wait, in the order of the calls. -/
def attempts (c : Course) : List UInt64 :=
  c.waiting.filterMap (·.pending.attempt?)

/-- Throughout, the attempts that wait are told apart, unless the counter has come round. -/
theorem Reachable.isStaggered (h : Reachable room c) (wraps : c.rises < UInt64.size) :
    IsStaggered c.rises c.monitor c.attempts := by
  induction h with
  | start => exact ⟨rfl, by simp [attempts], List.nodup_nil, by simp [attempts]⟩
  | @step c c' _ hstep ih =>
    obtain ⟨call, cue, front, back, rfl, hwaiting⟩ := hstep.exists_advance
    have hrises := c.rises_advance call cue front back
    have hbefore : c.attempts = front.filterMap (·.pending.attempt?) ++
        (cue.answered.bind Pending.attempt?).toList ++ back.filterMap (·.pending.attempt?) := by
      rw [attempts, hwaiting, List.filterMap_append, List.filterMap_append, filterMap_waiting]
    have hafter : (c.advance call cue front back).attempts =
        front.filterMap (·.pending.attempt?) ++
          ((c.monitor.turn cue).pending.bind Pending.attempt?).toList ++
          back.filterMap (·.pending.attempt?) := by
      rw [← filterMap_waiting _ call, ← List.filterMap_append, ← List.filterMap_append]
      rfl
    rw [hafter]
    refine (hbefore ▸ ih ?_).turn (c.monitor.attempts_turn cue) ?_ wraps
    · omega
    · simp only [hrises, Episode.isRise, decide_eq_true_eq]
      rfl

/-- An attempt that gets a reply while its generation is the latest finds the monitor about to
    enter, unless the counter has come round. -/
theorem Reachable.joining_of_latest (h : Reachable room c) {before after : List Episode}
    {e : Episode} (hsplit : c.history = before ++ e :: after)
    (wraps : before.countP (·.isRise) < UInt64.size)
    (latest : e.cue.answered.bind Pending.attempt? = some e.monitor.generation) :
    e.monitor.phase = .joining := by
  obtain ⟨c₀, hreachable, hbefore, hmonitor, hwaits⟩ := h.exists_before hsplit
  obtain ⟨p, hp, hattempt⟩ := Option.bind_eq_some_iff.1 latest
  have hrises : c₀.rises < UInt64.size := by
    rw [rises, hbefore]
    exact wraps
  rw [← hmonitor]
  refine (hreachable.isStaggered hrises).latest (List.mem_filterMap.2 ⟨_, hwaits p hp, ?_⟩)
  rw [hmonitor]
  exact hattempt

/-! ## The attempt of a call -/

/-- A call makes one attempt at most, whose questions carry its generation. -/
structure IsTagged (es : List Episode) (p : Option Pending) : Prop where
  /-- What the call waits for was asked. -/
  asked : ∀ q, p = some q → ∃ e ∈ es, e.turn.pending = some q
  /-- While a call asks for other things, it has made no attempt. -/
  aside : ∀ q, p = some q → q.isAside → ∀ e ∈ es, e.turn.isAside
  /-- Every question of an attempt carries the generation with which the attempt began. -/
  tagged : ∀ start ∈ es, start.isStart → ∀ e ∈ es, ∀ generation,
    e.turn.pending.bind Pending.attempt? = some generation →
      generation = start.turn.monitor.generation

/-- A call makes one attempt at most, whose questions carry its generation. -/
theorem Thread.isTagged {es : List Episode} {p : Option Pending} (h : Thread es p) :
    IsTagged es p := by
  -- the first question of an attempt is asked in the turn in which the generation rises
  have hself : ∀ e : Episode, e.isStart → ∀ generation,
      e.turn.pending.bind Pending.attempt? = some generation →
        generation = e.turn.monitor.generation := by
    intro e hstart generation hattempt
    obtain ⟨hpending, -⟩ := Episode.of_isStart hstart
    rw [hpending] at hattempt
    exact (Option.some.inj hattempt).symm
  induction h with
  | @begins e x cue =>
    refine ⟨fun q hq => ⟨e, by simp, hq⟩, ?aside, ?tagged⟩
    case aside =>
      intro q hq haside e' he'
      rw [List.mem_singleton.1 he']
      simpa [Turn.isAside, hq] using haside
    case tagged =>
      intro start hmem hstart e' he'
      rw [List.mem_singleton.1 hmem] at hstart ⊢
      rw [List.mem_singleton.1 he']
      exact hself e hstart
  | @goesOn es p e r _ cue ih =>
    have hcue : e.cue.isAside = p.isAside := by simp [cue, Cue.isAside, Cue.answered]
    refine ⟨fun q hq => ⟨e, by simp, hq⟩, ?aside, ?tagged⟩
    case aside =>
      -- a question outside all attempts follows only on others
      intro q hq haside e' he'
      rcases List.mem_append.1 he' with he' | he'
      · exact ih.aside p rfl (hcue ▸ Episode.isAside_cue hq haside) e' he'
      · rw [List.mem_singleton.1 he']
        simpa [Turn.isAside, hq] using haside
    case tagged =>
      intro start hmem hstart e' he' generation hattempt
      by_cases haside : p.isAside
      · -- there was no attempt before, so this is where it begins
        have hbefore := ih.aside p rfl haside
        rcases List.mem_append.1 hmem with hmem | hmem
        · exact absurd (hbefore start hmem) (Episode.not_isAside_of_isStart hstart)
        · rw [List.mem_singleton.1 hmem] at hstart ⊢
          rcases List.mem_append.1 he' with he' | he'
          · rw [Pending.attempt?_of_isAside (hbefore e' he')] at hattempt
            cases hattempt
          · rw [List.mem_singleton.1 he'] at hattempt
            exact hself e hstart generation hattempt
      · -- the attempt began before, and goes on or is at its end
        have hnot : ¬ e.cue.isAside := hcue ▸ haside
        have hmem : start ∈ es := by
          rcases List.mem_append.1 hmem with hmem | hmem
          · exact hmem
          · rw [List.mem_singleton.1 hmem] at hstart
            exact absurd (Episode.of_isStart hstart).2.1 hnot
        rcases List.mem_append.1 he' with he' | he'
        · exact ih.tagged start hmem hstart e' he' generation hattempt
        · rw [List.mem_singleton.1 he'] at hattempt
          have hanswered := Episode.attempt?_cue hattempt hnot
          obtain ⟨e₀, he₀, hasked⟩ := ih.asked p rfl
          refine ih.tagged start hmem hstart e₀ he₀ generation ?_
          rw [hasked]
          simpa [cue, Cue.answered] using hanswered

/-! ## Endings -/

/-- Whether the attempt of a call is over: since it began the monitor has stopped watching, or the
    attempt has failed, or another one has begun. -/
def IsOver (c : Course) (call : Nat) : Prop :=
  ∃ before start between last after, c.history = before ++ start :: (between ++ last :: after) ∧
    start.call = call ∧ start.isStart ∧
    (last.isStop ∨ (last.call = call ∧ last.isFailure) ∨ last.isStart)

/-- The generation of an attempt that is over is not the latest one, unless the counter has come
    round. -/
theorem Reachable.generation_ne (h : Reachable room c) (wraps : c.rises < UInt64.size)
    {before between after : List Episode} {start last : Episode}
    (hsplit : c.history = before ++ start :: (between ++ last :: after)) (hstart : start.isStart)
    (hlast : last.isRise) : c.monitor.generation ≠ start.turn.monitor.generation := by
  obtain ⟨c₀, hreachable, hbefore, hmonitor, -⟩ := h.exists_before hsplit
  obtain ⟨-, -, hnext⟩ := Episode.of_isStart hstart
  have hrises : c.rises = c₀.rises + 1 + between.countP (·.isRise) + 1 +
      after.countP (·.isRise) := by
    simp [rises, hsplit, hbefore, Episode.isRise_of_eq hnext, hlast]
    omega
  -- the counter says how often it went up, before the attempt and up to now
  rw [h.generation_eq, hnext, ← hmonitor, hreachable.generation_eq]
  intro heq
  have hnat := congrArg UInt64.toNat heq
  simp only [UInt64.toNat_ofNat', UInt64.toNat_add, UInt64.toNat_one] at hnat
  simp only [UInt64.size] at wraps
  omega

/-- Nothing comes through the listener of an attempt that is over: whatever notice comes, and
    whenever it comes, the monitor stays as it is, nothing is announced and nothing is asked. -/
theorem Reachable.over_silent (h : Reachable room c) (wraps : c.rises < UInt64.size) {call : Nat}
    (hover : c.IsOver call) {e : Episode} (he : e ∈ c.history) (hcall : e.call = call)
    {r : RoomRef} {generation : UInt64} (hlistener : e.asks = some (.addRoomListener r generation))
    (n : Notice) :
    (c.monitor.begin (.notice generation n)).monitor = c.monitor ∧
      announcements (c.monitor.begin (.notice generation n)).effects = [] ∧
      (c.monitor.begin (.notice generation n)).pending = none := by
  obtain ⟨before, start, between, last, after, hsplit, hstartcall, hstart, hlast⟩ := hover
  -- whatever ended the attempt raised the generation
  have hrise : last.isRise := by
    rcases hlast with hstop | ⟨-, hfailure⟩ | hstart
    · exact Episode.isRise_of_isStop hstop
    · exact Episode.isRise_of_isFailure hfailure
    · exact Episode.isRise_of_eq (Episode.of_isStart hstart).2.2
  -- the listener carries the generation with which the attempt began
  have htag : generation = start.turn.monitor.generation := by
    obtain ⟨p, hthread⟩ := h.exists_thread he
    have hmem : start ∈ c.thread e.call :=
      mem_thread.2 ⟨by simp [hsplit], hstartcall.trans hcall.symm⟩
    exact hthread.isTagged.tagged start hmem hstart e (mem_thread.2 ⟨he, rfl⟩) generation
      (Episode.attempt?_of_asks hlistener)
  have hnot : c.monitor.heeds generation = false := by
    refine Bool.eq_false_iff.2 fun hheeds => ?_
    obtain ⟨hlatest, -⟩ := (c.monitor.heeds_iff generation).1 hheeds
    exact h.generation_ne wraps hsplit hstart hrise (hlatest.trans htag)
  exact c.monitor.hear_of_not_heeds hnot n

/-- Somebody is seen by a second attempt, and not seen to come back in a notice to the first. -/
theorem Reachable.over_silent_twice :
    ∃ c, Reachable "brewery" c ∧ c.rises = 3 ∧ c.IsOver 0 ∧ c.monitor.phase = .joining ∧
      c.monitor.roster.workers.length = 1 ∧
      (c.monitor.begin (.notice 1 ⟨.joined, ⟨⟨"b"⟩, some (.announcing .busy)⟩⟩)).monitor =
        c.monitor := by
  have h : Reachable "brewery" _ := .start
  replace h := h.step (.begin .init)
  replace h := h.step (.resume [] [] rfl (⟨1⟩ : ListenerId))
  replace h := h.step (.resume [] [] rfl true)
  replace h := h.step (.resume [] [] rfl (.ok ⟨0⟩ : Except Refusal RoomRef))
  replace h := h.step (.resume [] [] rfl (⟨2⟩ : ListenerId))
  replace h := h.step (.resume [] [] rfl (.ok () : Except Refusal Unit))
  replace h := h.step (.begin (.registration .unregistered))
  replace h := h.step (.begin (.registration .registered))
  replace h := h.step (.resume [] [_] rfl (.ok ⟨0⟩ : Except Refusal RoomRef))
  replace h := h.step (.begin (.notice 3 ⟨.joined, ⟨⟨"a"⟩, some (.announcing .idle)⟩⟩))
  have hsilent := fun hover : IsOver _ 0 =>
    h.over_silent (by decide) hover (e := ⟨0, _, .reply (.obtaining 1) (.ok ⟨0⟩)⟩)
      (.tail _ (.tail _ (.tail _ (.head _)))) rfl (r := ⟨0⟩) rfl
  refine (fun hover => ⟨_, h, rfl, hover, rfl, rfl, (hsilent hover _).1⟩) ?_
  exact ⟨[_, _], _, [_, _, _], _, [_, _, _], rfl, rfl, rfl, .inl rfl⟩

/-- Whether the attempt of a call is over, or the monitor has begun to be disposed of since it
    began. -/
def IsGivenUp (c : Course) (call : Nat) : Prop :=
  ∃ before start between last after, c.history = before ++ start :: (between ++ last :: after) ∧
    start.call = call ∧ start.isStart ∧
    (last.isStop ∨ last.cue = .call .dispose ∨ (last.call = call ∧ last.isFailure) ∨ last.isStart)

/-- A monitor that is disposed of does not stop watching before its listener for the registration is
    gone. While it waits for that, somebody still comes in through the listener of its attempt, and
    is announced. -/
theorem Reachable.over_silent_fails :
    ∃ c, Reachable "brewery" c ∧ c.rises = 1 ∧ c.IsGivenUp 0 ∧
      (∃ e ∈ c.history, e.call = 0 ∧ e.asks = some (.addRoomListener ⟨0⟩ 1)) ∧
      let heard := c.monitor.begin (.notice 1 ⟨.joined, ⟨⟨"b"⟩, some (.announcing .busy)⟩⟩)
      heard.monitor ≠ c.monitor ∧ announcements heard.effects = [.availability ⟨"b"⟩ false] := by
  have h : Reachable "brewery" _ := .start
  replace h := h.step (.begin .init)
  replace h := h.step (.resume [] [] rfl (⟨1⟩ : ListenerId))
  replace h := h.step (.resume [] [] rfl true)
  replace h := h.step (.resume [] [] rfl (.ok ⟨0⟩ : Except Refusal RoomRef))
  replace h := h.step (.resume [] [] rfl (⟨2⟩ : ListenerId))
  replace h := h.step (.resume [] [] rfl (.ok () : Except Refusal Unit))
  replace h := h.step (.begin .dispose)
  refine ⟨_, h, rfl, ?given, ?listener, by decide, by decide⟩
  case given => exact ⟨[_, _], _, [_, _, _], _, [], rfl, rfl, rfl, .inr (.inl rfl)⟩
  case listener =>
    exact ⟨⟨0, _, .reply (.obtaining 1) (.ok ⟨0⟩)⟩, .tail _ (.tail _ (.tail _ (.head _))), rfl, rfl⟩

end Course

end WorkerRoster
