import WorkerRoster.Proofs.Course.Subscription
import WorkerRoster.Proofs.Site.Seat

/-!
# Stopping for Good

A monitor that is told to stop for good has its listener for the registration removed, and goes
away. Nothing brings it back, whatever else happens at the site, unless it was about to come back
when it was told: that is the case while a call that begins to watch waits to hear whether there is
a registration, and while a registration is being told to those who listened when it came, which a
listener that is removed meanwhile still hears of.

A call that begins to watch may also wait for the number of its listener when the monitor is told to
stop. It finds out when the number comes, and withdraws the listener again. Until it has, the
monitor can hear of a new registration through this listener, but of nothing else.

## Main statements

- `Site.Outcome.heldIn`: a listener that comes too late is withdrawn by the call that added it
- `Site.Dismissed.move`: a monitor that was told to stop is further on after every move
- `Site.Reachable.stays_away`: a monitor that was told to stop stays away
- `Site.Reachable.stays_away_fails`: one that was told too late comes back
- `Site.Reachable.comes_back_exposed`: so does one that hears of a registration through a listener
  on the hands of a call
-/

set_option autoImplicit false

namespace WorkerRoster

/-! ## Coming back -/

/-- Whether a monitor learns that there is a registration. -/
def Cue.isRousing : Cue → Bool
  | .call (.registration state) => state.isUp
  | .reply .probing isUp => isUp
  | _ => false

namespace Frame

/-- Whether a frame belongs to a call of a monitor that has come to a question. -/
def isAt (index : Nat) (p : Pending) : Frame → Bool
  | .asking other q | .replying other q _ => other = index && q = p
  | _ => false

/-- Whether a frame is about to tell a monitor that there is a registration. -/
def isRousing (index : Nat) : Frame → Bool
  | .telling targets state => state.isUp && targets.contains (.monitor index)
  | _ => false

/-- The listener for the registration that a call of a monitor has on its hands: it was just added,
    or is to be withdrawn. -/
def holds? (index : Nat) : Frame → Option ListenerId
  | .replying other .subscribing id => if other = index then some id else none
  | .asking other (.withdrawing id) => if other = index then some id else none
  | _ => none

theorem of_holds? {index : Nat} {f : Frame} {id : ListenerId} (h : f.holds? index = some id) :
    f = .replying index .subscribing id ∨ f = .asking index (.withdrawing id) := by
  unfold holds? at h
  split at h
  · split at h <;> cases h
    next hindex => exact .inl (hindex ▸ rfl)
  · split at h <;> cases h
    next hindex => exact .inr (hindex ▸ rfl)
  · cases h

end Frame

theorem Cue.isRousing_reply {p : Pending} (r : p.Reply) (h : p ≠ .probing) :
    (Cue.reply p r).isRousing = false := by
  cases p <;> first | rfl | exact absurd rfl h

/-- Which question follows on a cue. -/
inductive Monitor.Leads (m : Monitor) : Cue → Pending → Prop where
  | begins : Leads m (.call .init) .subscribing
  | withdraws (id : ListenerId) : Leads m (.reply .subscribing id) (.withdrawing id)
  | goesOn (id : ListenerId) (wanted : m.isSubscribed = true) :
    Leads m (.reply .subscribing id) .probing
  | stops (id : ListenerId) : Leads m (.call .dispose) (.unsubscribing id)
  | rouses {cue : Cue} (generation : UInt64) (rousing : cue.isRousing) :
    Leads m cue (.obtaining generation)
  | inside {cue : Cue} {p : Pending} (inside : p.room?.isSome) : Leads m cue p

namespace Monitor

theorem pending_hear (m : Monitor) (generation : UInt64) (n : Notice) :
    (m.hear generation n).pending = none := by
  unfold hear
  split
  · rfl
  · split <;> rfl

theorem pending_fail (m : Monitor) (generation : UInt64) (refusal : Refusal) :
    (m.fail generation refusal).pending = none := by
  unfold fail
  dsimp only
  split <;> rfl

variable {m : Monitor} {p : Pending}

theorem leads_tryEnter {cue : Cue} (rousing : cue.isRousing) (h : m.tryEnter.pending = some p) :
    m.Leads cue p := by
  unfold tryEnter at h
  split at h <;> cases h
  exact .rouses _ rousing

theorem leads_goAway {cue : Cue} (m' : Monitor) (h : m'.goAway.pending = some p) :
    m.Leads cue p := by
  unfold goAway at h
  cases hphase : m'.phase <;> simp only [hphase] at h <;> cases h
  exact .inside rfl

theorem leads_arrive {cue : Cue} {generation : UInt64} {seat : Seat}
    (h : (m.arrive generation seat).pending = some p) : m.Leads cue p := by
  unfold arrive at h
  split at h <;> cases h
  exact .inside rfl

/-- A question tells what it follows on. -/
theorem leads_turn {cue : Cue} (h : (m.turn cue).pending = some p) : m.Leads cue p := by
  cases cue with
  | call c =>
    cases c with
    | init =>
      simp only [turn, Monitor.begin] at h
      split at h <;> cases h
      exact .begins
    | dispose =>
      -- with a listener to remove, that is asked for first
      simp only [turn, Monitor.begin] at h
      split at h
      · cases h
        exact .stops _
      · exact leads_goAway _ h
    | registration state =>
      -- an attempt begins only on a registration that is there
      simp only [turn, Monitor.begin] at h
      split at h
      · next hup => exact leads_tryEnter hup h
      · split at h
        · exact leads_goAway _ h
        · cases h
    | notice generation n => simp [turn, Monitor.begin, pending_hear] at h
  | reply q r =>
    cases q with
    | subscribing =>
      simp only [turn, resume] at h
      -- whether the monitor still wants to watch is looked at when the number comes
      split at h <;> cases h
      · next wanted => exact .goesOn r wanted
      · exact .withdraws r
    | probing =>
      simp only [turn, resume] at h
      split at h
      · next hup => exact leads_tryEnter hup h
      · cases h
    -- the rest has to do with a room
    | unsubscribing _ => exact leads_goAway _ h
    | obtaining generation =>
      cases r with
      | ok room =>
        cases h
        exact .inside rfl
      | error refusal => simp [turn, resume, pending_fail] at h
    | entering generation seat =>
      cases r with
      | ok _ => exact leads_arrive h
      | error refusal =>
        cases h
        exact .inside rfl
    | listening generation room | releasing seat parting =>
      cases h
      exact .inside rfl
    | retreating generation _ refusal => simp [turn, resume, pending_fail] at h
    | withdrawing _ | leaving _ _ => cases h

/-- A monitor that is away stays away, unless it learns that there is a registration. -/
theorem away_turn {cue : Cue} (h : m.phase = .away) (calm : cue.isRousing = false) :
    (m.turn cue).monitor.phase = .away := by
  have htakes := m.takes_turn cue
  have hleads : ∀ p, (m.turn cue).pending = some p → m.Leads cue p := fun _ => leads_turn
  generalize m.turn cue = t at htakes hleads
  cases htakes with
  | aside _ _ phase => rw [phase, h]
  | stops _ phase => exact phase
  | begins _ _ _ pending =>
    -- an attempt begins only when the monitor is roused
    cases hleads _ pending with
    | rouses _ rousing => simp [calm] at rousing
    | inside inside => cases inside
  | arrives awaited =>
    obtain ⟨-, hjoining⟩ := (m.awaits_iff _).1 awaited
    simp [h] at hjoining
  | fails _ _ monitor => rw [monitor]
  | sees _ _ monitor | obtains monitor | listens monitor | overtaken _ monitor | refused monitor
  | forgets _ _ monitor | releases monitor | leaves monitor =>
    rw [monitor]
    exact h

end Monitor

namespace Site

/-! ## Being left alone -/

/-- Whether a monitor has a listener for the registration that a call of it has on its hands. -/
def isExposed (s : Site) (index : Nat) : Bool :=
  s.stack.any fun f =>
    (f.holds? index).any fun id => (id, .monitor index) ∈ s.connection.listeners

/-- Whether a move tells a monitor to watch, or tells it of a registration: past the connection, or
    through a listener that a call of it has on its hands. -/
def bids (s : Site) (index : Nat) : Move → Bool
  | .call other .init | .call other (.registration _) => other = index
  | .setState state => state.isUp && s.isExposed index
  | _ => false

/-- What can come of a site while nobody bids a monitor to watch. -/
inductive Unbidden (index : Nat) (s : Site) : Site → Prop where
  | refl : Unbidden index s s
  | move {t : Site} (before : Unbidden index s t) (m : Move) (unbidden : t.bids index m = false) :
    Unbidden index s (t.move m)

/-- Every listener for the registration that a monitor has is on the hands of a call among some
    frames. -/
def HeldIn (s : Site) (index : Nat) (frames : List Frame) : Prop :=
  ∀ id, (id, .monitor index) ∈ s.connection.listeners → ∃ f ∈ frames, f.holds? index = some id

variable {s s' : Site} {index : Nat} {m : Move} {gone : Option Frame} {monitor : Monitor}

theorem isRousing_of_isTask {f : Frame} (h : f.isTask) : f.isRousing index = false := by
  cases f <;> first | rfl | simp [Frame.isTask] at h

theorem isRousing_of_isPlain {f : Frame} (h : f.isPlain) : f.isRousing index = false := by
  cases f <;> first | rfl | cases h

theorem isAt_of_not_isTask {f : Frame} {p : Pending} (h : f.isTask = false) :
    f.isAt index p = false := by
  cases f <;> first | rfl | simp [Frame.isTask] at h

theorem isRousing_cons {l : RegistrationListener} {targets : List RegistrationListener}
    {state : Registration} (h : (Frame.telling targets state).isRousing index) :
    (Frame.telling (l :: targets) state).isRousing index := by
  simp only [Frame.isRousing, Bool.and_eq_true, List.contains_cons, Bool.or_eq_true] at h ⊢
  exact ⟨h.1, .inr h.2⟩

/-- No registration can come while a listener of the monitor is on the hands of a call. -/
theorem isExposed_of_held {f : Frame} {id : ListenerId} (hf : f ∈ s.stack)
    (hholds : f.holds? index = some id) (hid : (id, .monitor index) ∈ s.connection.listeners) :
    s.isExposed index = true := by
  refine List.any_eq_true.2 ⟨f, hf, ?_⟩
  rw [hholds]
  exact decide_eq_true hid

section Cues

variable {cue : Cue} {under : List Frame}

/-- What comes on the stack with a turn: its question, and what goes on being told. -/
theorem Cued.mem_new {turner : Nat} (h : Cued turner m gone cue under) (index : Nat)
    {p : Option Pending} {f : Frame} (hf : f ∈ (p.map (Frame.asking turner)).toList ++ under) :
    (∃ q, p = some q ∧ f = .asking turner q) ∨
      f.isTask = false ∧ (f.isRousing index → ∃ g ∈ gone, g.isRousing index) := by
  rcases List.mem_append.1 hf with hf | hf
  · obtain ⟨q, hq, rfl⟩ := Option.map_eq_some_iff.1 (Option.mem_toList.1 hf)
    exact .inl ⟨q, hq, rfl⟩
  · right
    cases h with
    | called _ | replied _ _ | answered _ _ => cases hf
    | told targets state =>
      cases List.mem_singleton.1 hf
      exact ⟨rfl, fun rousing => ⟨_, rfl, isRousing_cons rousing⟩⟩
    | notified generation targets n =>
      cases List.mem_singleton.1 hf
      exact ⟨rfl, fun rousing => by cases rousing⟩

/-- A monitor that is not bidden is not told to begin. -/
theorem Cued.ne_init (h : Cued index m gone cue under) (unbidden : s.bids index m = false) :
    cue ≠ .call .init := by
  rintro rfl
  cases h
  simp [bids] at unbidden

/-- A monitor learns of a registration only when it is told or has asked. -/
theorem Cued.not_isRousing (h : Cued index m gone cue under) (unbidden : s.bids index m = false)
    (unprobed : ∀ f ∈ gone, f.isAt index .probing = false)
    (unroused : ∀ f ∈ gone, f.isRousing index = false) : cue.isRousing = false := by
  cases h with
  | called c => cases c <;> first | rfl | simp [bids] at unbidden
  | told targets state => simpa [Frame.isRousing, Cue.isRousing] using unroused _ rfl
  | notified _ _ _ => rfl
  | replied p r | answered r prompt =>
    have hp := unprobed _ rfl
    simp only [Frame.isAt, decide_true, Bool.true_and, decide_eq_false_iff_not] at hp
    exact Cue.isRousing_reply r hp

end Cues

section Moves

variable {new rest : List Frame}

/-- No call of the monitor comes to a question on which no turn of it leads. -/
theorem Outcome.not_isAt {p : Pending} (h : s.Outcome m gone new s')
    (leads : ∀ monitor cue under, s.watchers[index]? = some monitor →
      Cued index m gone cue under → ¬ monitor.Leads cue p)
    (before : ∀ f ∈ gone, f.isAt index p = false) : ∀ f ∈ new, f.isAt index p = false := by
  intro f hf
  cases h with
  | apart _ _ _ new_isTask => exact isAt_of_not_isTask (new_isTask f hf)
  | lost => cases hf
  | @turn _ _ turner monitor cue under _ cued is =>
    rcases cued.mem_new index hf with ⟨q, hq, rfl⟩ | ⟨hf, -⟩
    · rw [Frame.isAt, Bool.and_eq_false_iff, decide_eq_false_iff_not, decide_eq_false_iff_not]
      refine Decidable.not_and_iff_or_not.1 ?_
      rintro ⟨rfl, rfl⟩
      exact leads monitor cue under is cued (Monitor.leads_turn hq)
    · exact isAt_of_not_isTask hf
  | @answered asker q r _ _ _ front_plain =>
    rcases List.mem_append.1 hf with hf | hf
    · exact isAt_of_not_isTask (Frame.isTask_of_isPlain (front_plain f hf))
    · cases List.mem_singleton.1 hf
      exact before (.asking asker q) rfl

/-- No call begins to watch. -/
theorem Outcome.not_subscribing (h : s.Outcome m gone new s') (unbidden : s.bids index m = false)
    (before : ∀ f ∈ gone, f.isAt index .subscribing = false) :
    ∀ f ∈ new, f.isAt index .subscribing = false := by
  refine h.not_isAt (fun monitor cue under _ cued leads => ?_) before
  cases leads with
  | begins => exact cued.ne_init unbidden rfl
  | inside inside => cases inside

/-- A call that finds the monitor unwilling does not ask whether there is a registration. -/
theorem Outcome.not_probing (h : s.Outcome m gone new s') (is : s.watchers[index]? = some monitor)
    (unwilling : monitor.isSubscribed = false)
    (before : ∀ f ∈ gone, f.isAt index .probing = false) :
    ∀ f ∈ new, f.isAt index .probing = false := by
  refine h.not_isAt (fun monitor' cue under is' cued leads => ?_) before
  cases is.symm.trans is'
  cases leads with
  | goesOn id wanted => simp [unwilling] at wanted
  | inside inside => cases inside

/-- A monitor that is unwilling stays so. -/
theorem Outcome.unwilling (h : s.Outcome m gone new s') (unbidden : s.bids index m = false)
    (is : s.watchers[index]? = some monitor) (unwilling : monitor.isSubscribed = false) :
    ∃ after, s'.watchers[index]? = some after ∧ after.isSubscribed = false := by
  cases h with
  | apart watchers | lost watchers | answered _ watchers =>
    rw [watchers]
    exact ⟨monitor, is, unwilling⟩
  | @turn _ _ turner turning cue under _ cued is' watchers =>
    rw [watchers]
    by_cases hturner : turner = index
    · subst hturner
      cases is.symm.trans is'
      refine ⟨_, List.getElem?_set_self (List.getElem?_eq_some_iff.1 is).1, ?_⟩
      have hinit := cued.ne_init unbidden
      have hminds := monitor.minds_turn cue
      generalize monitor.turn cue = t at hminds ⊢
      cases hminds with
      | begins | repeats => exact absurd rfl hinit
      | ends wants => exact wants
      | keeps was => simp [unwilling] at was
      | returns _ monitor => rw [monitor, unwilling]
      | apart _ _ wants => rw [wants, unwilling]
    · rw [List.getElem?_set_ne hturner]
      exact ⟨monitor, is, unwilling⟩

/-- Nobody is about to tell a monitor that there is a registration who was not before, unless the
    registration comes while the monitor listens. -/
theorem Outcome.rousing (h : s.Outcome m gone new s') {f : Frame} (hf : f ∈ new)
    (rousing : f.isRousing index) :
    (∃ state id, m = .setState state ∧ state.isUp = true ∧
      (id, .monitor index) ∈ s.connection.listeners) ∨ ∃ g ∈ gone, g.isRousing index := by
  have htask : f.isTask = false := by
    cases htask : f.isTask with
    | false => rfl
    | true => simp [isRousing_of_isTask htask] at rousing
  cases h with
  | apart _ _ _ _ tells =>
    cases f with
    | telling targets state =>
      rcases tells targets state hf with ⟨rfl, rfl⟩ | ⟨l, rfl⟩
      · -- those who listen now begin to be told
        left
        simp only [Frame.isRousing, Bool.and_eq_true, List.contains_iff_mem] at rousing
        obtain ⟨⟨id, _⟩, hid, rfl⟩ := List.mem_map.1 rousing.2
        exact ⟨state, id, rfl, rousing.1, hid⟩
      · -- one of them has been told, and the others are next
        exact .inr ⟨_, rfl, isRousing_cons rousing⟩
    | asking _ _ | replying _ _ _ | delivering _ _ | introducing _ _ | outside => cases rousing
  | lost => cases hf
  | @turn _ _ turner monitor cue under _ cued =>
    rcases cued.mem_new index hf with ⟨p, -, rfl⟩ | ⟨-, hroused⟩
    · cases htask
    · exact .inr (hroused rousing)
  | answered _ _ front_plain =>
    rcases List.mem_append.1 hf with hf | hf
    · simp [isRousing_of_isPlain (front_plain f hf)] at rousing
    · cases List.mem_singleton.1 hf
      cases htask

/-- A monitor whose listeners are all on the hands of calls is told of no registration that comes
    now. -/
theorem Outcome.unroused (h : s.Outcome m gone new s') (unbidden : s.bids index m = false)
    (held : s.HeldIn index s.stack) (calm : ∀ f ∈ gone, f.isRousing index = false) :
    ∀ f ∈ new, f.isRousing index = false := by
  intro f hf
  cases rousing : f.isRousing index with
  | false => rfl
  | true =>
    rcases h.rousing hf rousing with ⟨state, id, rfl, hup, hid⟩ | ⟨g, hg, hrousing⟩
    · obtain ⟨f, hf, hholds⟩ := held id hid
      simp [bids, hup, isExposed_of_held hf hholds hid] at unbidden
    · simp [calm g hg] at hrousing

/-- A listener of a monitor was there before, and nobody has asked for its removal, or it was just
    added. -/
theorem Outcome.heard (h : s.Outcome m gone new s') {id : ListenerId}
    (hid : (id, .monitor index) ∈ s'.connection.listeners) :
    ((id, .monitor index) ∈ s.connection.listeners ∧
      ∀ p, gone = some (.asking index p) → p.dismissed? ≠ some id) ∨
    gone = some (.asking index .subscribing) ∧ .replying index .subscribing id ∈ new := by
  -- only a question that is not answered at once removes a listener
  have hprompt : ∀ p : Pending, p.isPrompt → p.dismissed? ≠ some id := by
    intro p hp
    cases p <;> simp_all [Pending.isPrompt, Pending.dismissed?]
  cases h with
  | apart _ noMore gone_isTask =>
    refine .inl ⟨noMore.outside hid, ?_⟩
    rintro p rfl
    cases gone_isTask _ rfl
  | @lost owner _ _ _ noMore isOf prompt =>
    refine .inl ⟨noMore.outside hid, ?_⟩
    rintro p ⟨⟩
    obtain rfl : index = owner := by simpa [Frame.isOf] using isOf
    exact hprompt p (prompt p rfl)
  | turn cued _ _ noMore =>
    refine .inl ⟨noMore.outside hid, ?_⟩
    rintro p rfl
    cases cued with
    | answered r prompt => exact hprompt p prompt
  | @answered asker p r _ _ _ _ outside =>
    rcases outside hid with ⟨hid, hne⟩ | ⟨rfl, hadded⟩
    · refine .inl ⟨hid, fun q hq => ?_⟩
      cases hq
      exact hne
    · -- the number of a listener that is new is on its way
      right
      cases p <;> cases hadded
      exact ⟨rfl, by simp⟩

/-- A call that has a listener of an unwilling monitor on its hands withdraws it. -/
theorem Outcome.holds {f : Frame} (h : s.Outcome m (some f) new s')
    (is : s.watchers[index]? = some monitor) (unwilling : monitor.isSubscribed = false)
    {id : ListenerId} (hholds : f.holds? index = some id) :
    f = .asking index (.withdrawing id) ∨ .asking index (.withdrawing id) ∈ new := by
  rcases Frame.of_holds? hholds with rfl | rfl
  · right
    cases h with
    | apart _ _ gone_isTask => cases gone_isTask _ rfl
    | @lost owner _ _ _ _ isOf _ astray =>
      obtain rfl : index = owner := by simpa [Frame.isOf] using isOf
      rcases astray with hnone | ⟨_, _, hentering, -⟩
      · simp [is] at hnone
      · cases hentering
    | turn cued is' =>
      cases cued with
      | replied _ _ =>
        cases is.symm.trans is'
        simp [Monitor.turn, Monitor.resume, unwilling]
  · exact .inl rfl

/-- The listeners of an unwilling monitor that are on the hands of calls stay there until they are
    withdrawn, and so does one that comes too late. -/
theorem Outcome.heldIn (h : s.Outcome m gone new s') (is : s.watchers[index]? = some monitor)
    (unwilling : monitor.isSubscribed = false) (held : s.HeldIn index (gone.toList ++ rest)) :
    s'.HeldIn index (new ++ rest) := by
  intro id hid
  rcases h.heard hid with ⟨hid, hkept⟩ | ⟨-, hnew⟩
  · obtain ⟨f, hf, hholds⟩ := held id hid
    rcases List.mem_append.1 hf with hf | hf
    · obtain rfl := Option.mem_toList.1 hf
      rcases h.holds is unwilling hholds with rfl | hnew
      · exact absurd rfl (hkept _ rfl)
      · exact ⟨_, List.mem_append_left _ hnew, if_pos rfl⟩
    · exact ⟨f, List.mem_append_right _ hf, hholds⟩
  · exact ⟨_, List.mem_append_left _ hnew, if_pos rfl⟩

/-- A monitor that is away stays away, unless it is told that there is a registration. -/
theorem Outcome.away (h : s.Outcome m gone new s') (unbidden : s.bids index m = false)
    (unprobed : ∀ f ∈ gone, f.isAt index .probing = false)
    (unroused : ∀ f ∈ gone, f.isRousing index = false)
    (away : ∀ monitor ∈ s.watchers[index]?, monitor.phase = .away) :
    ∀ monitor ∈ s'.watchers[index]?, monitor.phase = .away := by
  cases h with
  | apart watchers | lost watchers | answered _ watchers =>
    rw [watchers]
    exact away
  | @turn _ _ turner monitor cue under _ cued is watchers =>
    rw [watchers, List.getElem?_set]
    split
    · next hturner =>
      subst hturner
      intro after hafter
      split at hafter
      · cases hafter
        exact Monitor.away_turn (away monitor is) (cued.not_isRousing unbidden unprobed unroused)
      · cases hafter
    · exact away

end Moves

/-! ## Staying away -/

/-- Nothing is under way that would bring a monitor back that is told to stop. -/
structure IsCalm (s : Site) (index : Nat) : Prop where
  /-- No call that begins to watch waits to hear whether there is a registration. -/
  unprobed : ∀ f ∈ s.stack, f.isAt index .probing = false
  /-- Nobody is about to tell the monitor that there is a registration. -/
  unroused : ∀ f ∈ s.stack, f.isRousing index = false
  /-- The monitor knows of every listener that it has for the registration, but for those that a
      call has on its hands. -/
  known : ∀ x ∈ s.connection.listeners, x.2 = .monitor index →
    s.watchers[index]?.bind (·.subscription) = some x.1 ∨
      ∃ f ∈ s.stack, f.holds? index = some x.1

/-- How far a monitor is that was told to stop. -/
inductive Dismissed (index : Nat) (s : Site) : Prop where
  /-- It asks for its listener to be removed. It can be told of a registration meanwhile, but
      whoever tells it is done before it goes on. -/
  | leaving (id : ListenerId) (above below : List Frame)
      (stack : s.stack = above ++ .asking index (.unsubscribing id) :: below)
      (fresh : ∀ f ∈ above, f.isAt index .subscribing = false)
      (unroused : ∀ f ∈ below, f.isRousing index = false)
      (last : ∀ other, (other, .monitor index) ∈ s.connection.listeners →
        other = id ∨ ∃ f ∈ below, f.holds? index = some other)
  /-- Its listener is gone. -/
  | left (id : ListenerId) (above below : List Frame)
      (stack : s.stack = above ++ .replying index (.unsubscribing id) () :: below)
      (fresh : ∀ f ∈ above, f.isAt index .subscribing = false)
      (unroused : ∀ f ∈ above ++ below, f.isRousing index = false)
      (held : s.HeldIn index below)
  /-- It has gone away. -/
  | gone (away : ∀ monitor ∈ s.watchers[index]?, monitor.phase = .away)
      (unroused : ∀ f ∈ s.stack, f.isRousing index = false) (held : s.HeldIn index s.stack)

section Progress

variable {new rest above below : List Frame} {x : Frame}

theorem mem_of_mem_gone (hold : s.stack = gone.toList ++ rest) {f : Frame} (hf : f ∈ gone) :
    f ∈ s.stack := by
  rw [hold]
  exact List.mem_append_left _ (Option.mem_toList.2 hf)

/-- The innermost frame is the one that matters, or that one is below it. -/
theorem eq_or_below (h : gone.toList ++ rest = above ++ x :: below) :
    (gone = some x ∧ above = [] ∧ rest = below) ∨
      ∃ others, rest = others ++ x :: below ∧ above = gone.toList ++ others := by
  cases gone with
  | none => exact .inr ⟨above, h, rfl⟩
  | some f =>
    cases above with
    | nil =>
      obtain ⟨rfl, rfl⟩ := List.cons.inj h
      exact .inl ⟨rfl, rfl, rfl⟩
    | cons g others =>
      obtain ⟨rfl, rfl⟩ := List.cons.inj h
      exact .inr ⟨others, rfl, rfl⟩

theorem HeldIn.mono {frames others : List Frame} (h : s.HeldIn index frames)
    (sub : ∀ f ∈ frames, f ∈ others) : s.HeldIn index others := by
  intro id hid
  obtain ⟨f, hf, hholds⟩ := h id hid
  exact ⟨f, sub f hf, hholds⟩

/-- The listeners that are on the hands of calls below stay there while something above goes on in
    which no call begins to watch. -/
theorem Outcome.heldIn_below (h : s.Outcome m gone new s')
    (fresh : ∀ f ∈ gone, f.isAt index .subscribing = false) (held : s.HeldIn index below) :
    s'.HeldIn index below := by
  intro id hid
  rcases h.heard hid with ⟨hid, -⟩ | ⟨rfl, -⟩
  · exact held id hid
  · have hfresh := fresh _ rfl
    simp [Frame.isAt] at hfresh

/-- That a listener is gone is told in a reply. -/
theorem Outcome.replies_unsubscribing {id : ListenerId}
    (h : s.Outcome m (some (.asking index (.unsubscribing id))) new s') :
    ∃ front, (∀ f ∈ front, f.isPlain) ∧
      new = front ++ [.replying index (.unsubscribing id) ()] := by
  cases h with
  | apart _ _ gone_isTask => cases gone_isTask _ rfl
  | @lost owner _ _ _ _ isOf prompt =>
    obtain rfl : index = owner := by simpa [Frame.isOf] using isOf
    cases prompt _ rfl
  | turn cued =>
    cases cued with
    | answered _ prompt => cases prompt
  | answered r _ front_plain => exact ⟨_, front_plain, rfl⟩

/-- A monitor whose listener is gone goes away. -/
theorem Outcome.away_unsubscribing {id : ListenerId}
    (h : s.Outcome m (some (.replying index (.unsubscribing id) ())) new s') :
    ∀ monitor ∈ s'.watchers[index]?, monitor.phase = .away := by
  cases h with
  | apart _ _ gone_isTask => cases gone_isTask _ rfl
  | @lost owner _ _ watchers _ isOf _ astray =>
    obtain rfl : index = owner := by simpa [Frame.isOf] using isOf
    rcases astray with hnone | ⟨_, _, hentering, -⟩
    · simp [watchers, hnone]
    · cases hentering
  | turn cued is watchers =>
    cases cued with
    | replied _ _ =>
      rw [watchers, List.getElem?_set_self (List.getElem?_eq_some_iff.1 is).1]
      rintro _ ⟨⟩
      rfl

/-- A monitor that is told to stop begins to, or goes away at once. -/
theorem IsCalm.dismissed (h : s.IsCalm index) (is : s.watchers[index]? = some monitor) :
    (s.move (.call index .dispose)).Dismissed index := by
  have hstack : (s.move (.call index .dispose)).stack =
      ((monitor.turn (.call .dispose)).pending.map (Frame.asking index)).toList ++ s.stack := by
    obtain ⟨-, -, -, hstack⟩ := s.parts_apply index (monitor.turn (.call .dispose))
    rw [Site.move, call_of_some is, hstack]
  have hconnection : (s.move (.call index .dispose)).connection = s.connection := by
    rw [Site.move, call_of_some is, connection_apply]
  have hknown := h.known
  rw [is] at hknown
  cases hid : monitor.subscription with
  | some id =>
    -- it asks for its listener to be removed, and knows of no other
    refine .leaving id [] s.stack ?_ (by simp) h.unroused fun other hother => ?_
    · rw [hstack]
      simp [Monitor.turn, Monitor.begin, hid]
    · rw [hconnection] at hother
      refine (hknown _ hother rfl).imp_left fun hsome => ?_
      exact Option.some.inj (hsome.symm.trans hid)
  | none =>
    have hgoes : monitor.turn (.call .dispose) =
        Monitor.goAway { monitor with isSubscribed := false } := by
      simp [Monitor.turn, Monitor.begin, hid]
    refine .gone ?_ ?_ fun other hother => ?_
    · rw [Site.move, call_of_some is, watchers_apply_eq,
        List.getElem?_set_self (List.getElem?_eq_some_iff.1 is).1, hgoes]
      rintro _ ⟨⟩
      rfl
    · rw [hstack]
      refine List.forall_mem_append.2 ⟨fun f hf => ?_, h.unroused⟩
      obtain ⟨p, -, rfl⟩ := Option.map_eq_some_iff.1 (Option.mem_toList.1 hf)
      rfl
    · rw [hconnection] at hother
      rcases hknown _ hother rfl with hsome | ⟨f, hf, hholds⟩
      · cases hid.symm.trans hsome
      · rw [hstack]
        exact ⟨f, List.mem_append_right _ hf, hholds⟩

/-- A monitor that was told to stop is further on after every move. -/
theorem Dismissed.move (h : s.Dismissed index) (is : s.watchers[index]? = some monitor)
    (unwilling : monitor.isSubscribed = false)
    (unprobed : ∀ f ∈ s.stack, f.isAt index .probing = false) (m : Move)
    (unbidden : s.bids index m = false) : (s.move m).Dismissed index := by
  obtain ⟨gone, new, rest, hold, hnew, houtcome⟩ := s.becomes_move m
  generalize s.move m = s' at hnew houtcome
  replace unprobed := fun f hf => unprobed f (mem_of_mem_gone hold hf)
  cases h with
  | leaving id above below stack fresh unroused last =>
    rcases eq_or_below (hold.symm.trans stack) with ⟨rfl, rfl, rfl⟩ | ⟨others, rfl, rfl⟩
    · -- the listener is removed
      have hheld : s'.HeldIn index rest := by
        intro other hother
        rcases houtcome.heard hother with ⟨hbefore, hne⟩ | ⟨hsubscribing, -⟩
        · refine (last other hbefore).resolve_left ?_
          rintro rfl
          exact hne _ rfl rfl
        · cases hsubscribing
      obtain ⟨front, front_plain, rfl⟩ := houtcome.replies_unsubscribing
      refine .left id front rest ?_ (fun f hf => ?_) ?_ hheld
      · rw [hnew, List.append_assoc]
        rfl
      · exact isAt_of_not_isTask (Frame.isTask_of_isPlain (front_plain f hf))
      · exact List.forall_mem_append.2
          ⟨fun f hf => isRousing_of_isPlain (front_plain f hf), unroused⟩
    · -- something above goes on
      simp only [List.forall_mem_append, Option.mem_toList] at fresh
      obtain ⟨hgone, hothers⟩ := fresh
      have hfresh := houtcome.not_subscribing unbidden hgone
      refine .leaving id (new ++ others) below ?_ ?_ unroused ?_
      · rw [hnew, List.append_assoc]
      · exact List.forall_mem_append.2 ⟨hfresh, hothers⟩
      · intro other hother
        rcases houtcome.heard hother with ⟨hbefore, -⟩ | ⟨rfl, -⟩
        · exact last other hbefore
        · have hnot := hgone _ rfl
          simp [Frame.isAt] at hnot
  | left id above below stack fresh unroused held =>
    have hwhole : s.HeldIn index s.stack := held.mono fun f hf => by simp [stack, hf]
    rcases eq_or_below (hold.symm.trans stack) with ⟨rfl, rfl, rfl⟩ | ⟨others, rfl, rfl⟩
    · -- the monitor goes away
      have hfresh : ∀ f ∈ some (Frame.replying index (.unsubscribing id) ()),
          f.isAt index .subscribing = false := by
        rintro _ ⟨⟩
        simp [Frame.isAt]
      have hheld : s'.HeldIn index rest := houtcome.heldIn_below hfresh held
      refine .gone houtcome.away_unsubscribing ?_ ?_
      · rw [hnew]
        exact List.forall_mem_append.2
          ⟨houtcome.unroused unbidden hwhole (by rintro _ ⟨⟩; rfl), unroused⟩
      · rw [hnew]
        exact hheld.mono fun f hf => List.mem_append_right _ hf
    · -- something above goes on
      simp only [List.forall_mem_append, Option.mem_toList] at fresh unroused
      obtain ⟨⟨hgone, hothers⟩, hbelow⟩ := unroused
      refine .left id (new ++ others) below ?_ ?_ ?_ (houtcome.heldIn_below fresh.1 held)
      · rw [hnew, List.append_assoc]
      · exact List.forall_mem_append.2 ⟨houtcome.not_subscribing unbidden fresh.1, fresh.2⟩
      · simp only [List.forall_mem_append]
        exact ⟨⟨houtcome.unroused unbidden hwhole hgone, hothers⟩, hbelow⟩
  | gone away unroused held =>
    have hheld := held
    rw [hold] at unroused hheld
    simp only [List.forall_mem_append, Option.mem_toList] at unroused
    obtain ⟨hgone, hrest⟩ := unroused
    refine .gone (houtcome.away unbidden unprobed hgone away) ?_ ?_
    · rw [hnew]
      exact List.forall_mem_append.2 ⟨houtcome.unroused unbidden held hgone, hrest⟩
    · rw [hnew]
      exact houtcome.heldIn is unwilling hheld

end Progress

/-- What is true of all frames stays so, if it is true of those that come on the stack. -/
theorem forall_mem_stack_move {P : Frame → Prop} (h : ∀ f ∈ s.stack, P f) (m : Move)
    (kept : ∀ {gone new}, s.Outcome m gone new (s.move m) → (∀ f ∈ gone, P f) →
      ∀ f ∈ new, P f) : ∀ f ∈ (s.move m).stack, P f := by
  obtain ⟨gone, new, rest, hold, hnew, houtcome⟩ := s.becomes_move m
  rw [hold] at h
  rw [hnew]
  simp only [List.forall_mem_append, Option.mem_toList] at h ⊢
  exact ⟨kept houtcome h.1, h.2⟩

/-- What is true of a monitor since it was told to stop. -/
structure IsStopping (s : Site) (index : Nat) : Prop where
  unwilling : ∃ monitor, s.watchers[index]? = some monitor ∧ monitor.isSubscribed = false
  unprobed : ∀ f ∈ s.stack, f.isAt index .probing = false
  dismissed : s.Dismissed index

theorem IsCalm.isStopping (h : s.IsCalm index) (is : s.watchers[index]? = some monitor) :
    (s.move (.call index .dispose)).IsStopping index := by
  refine ⟨?_, ?_, h.dismissed is⟩
  · refine ⟨(monitor.turn (.call .dispose)).monitor, ?_, ?_⟩
    · rw [Site.move, call_of_some is, watchers_apply_eq,
        List.getElem?_set_self (List.getElem?_eq_some_iff.1 is).1]
    · have hminds := monitor.minds_turn (.call .dispose)
      generalize monitor.turn (.call .dispose) = t at hminds ⊢
      cases hminds with
      | ends wants => exact wants
      | apart silent => cases silent
  · refine forall_mem_stack_move h.unprobed _ fun houtcome => houtcome.not_isAt ?_
    intro _ _ _ _ cued leads
    -- whoever is told to stop asks no such thing
    cases cued
    cases leads with
    | inside inside => cases inside

theorem IsStopping.move (h : s.IsStopping index) (m : Move) (unbidden : s.bids index m = false) :
    (s.move m).IsStopping index := by
  obtain ⟨monitor, is, unwilling⟩ := h.unwilling
  refine ⟨?_, ?_, h.dismissed.move is unwilling h.unprobed m unbidden⟩
  · obtain ⟨gone, new, rest, -, -, houtcome⟩ := s.becomes_move m
    exact houtcome.unwilling unbidden is unwilling
  · exact forall_mem_stack_move h.unprobed m fun houtcome => houtcome.not_probing is unwilling

variable {t : Site}

theorem Unbidden.reachable (h : Unbidden index s t) (reachable : s.Reachable) : t.Reachable := by
  induction h with
  | refl => exact reachable
  | move _ m _ ih => exact ih.move m

theorem Unbidden.length_watchers (h : Unbidden index s t) :
    t.watchers.length = s.watchers.length := by
  induction h with
  | refl => rfl
  | move _ m _ ih => rw [length_watchers_move, ih]

/-- A monitor that was told to stop, while nothing would bring it back, is on its way or away as
    long as nobody bids it to watch. -/
theorem Unbidden.isStopping (calm : s.IsCalm index) (is : s.watchers[index]? = some monitor)
    (h : Unbidden index (s.move (.call index .dispose)) t) : t.IsStopping index := by
  induction h with
  | refl => exact calm.isStopping is
  | move _ m unbidden ih => exact ih.move m unbidden

/-- Whenever nothing of it is under way, a monitor that was told to stop is away, knows nobody and
    listens in no room, whatever else was done at the site since, as long as nobody bids it to watch
    again. It must not have been about to come back when it was told: no call of it waits to hear
    whether there is a registration, nobody is about to tell it of one, and it has no listener but
    the one that it knows of and those that its calls have on their hands. A call that has begun to
    watch before, and waits for the number of its listener, is no matter. -/
theorem Reachable.stays_away {monitor : Monitor} (h : s.Reachable) (calm : s.IsCalm index)
    (later : Unbidden index (s.move (.call index .dispose)) t)
    (idle : ∀ f ∈ t.stack, Frame.isOf index f = false)
    (is : t.watchers[index]? = some monitor) :
    monitor.phase = .away ∧ monitor.roster = .empty ∧
      ∀ room id generation, (id, .monitor index generation) ∉ t.guests room := by
  have hreachable : t.Reachable := later.reachable (h.move _)
  have haway : monitor.phase = .away := by
    -- monitors stay at their places
    have hlt : index < s.watchers.length := by
      rw [← length_watchers_move s (.call index .dispose), ← later.length_watchers]
      exact (List.getElem?_eq_some_iff.1 is).1
    have hstopping := later.isStopping calm (List.getElem?_eq_getElem hlt)
    cases hstopping.dismissed with
    | leaving id above below stack | left id above below stack =>
      -- its call to stop is not finished
      have howner := idle _ (stack ▸ List.mem_append_right _ (.head _))
      simp [Frame.isOf] at howner
    | gone away => exact away monitor is
  refine ⟨haway, ?_, fun room id generation hlistens => ?_⟩
  · have hconsistent := hreachable.keeps Monitor.isConsistent_new (fun _ cue hm => hm.turn cue)
    exact (hconsistent monitor (List.mem_of_getElem? is)).away haway
  · -- it would have the seat on its hands
    have hseated := hreachable.isSeated (List.getElem?_eq_some_iff.1 is).1
    have hknows := hseated.knows hlistens
    rw [hands, is] at hknows
    rcases List.mem_append.1 hknows with hcall | hpresent
    · obtain ⟨f, hf, hseat⟩ := List.mem_flatMap.1 hcall
      simp [hands_of_not_isOf (idle f hf)] at hseat
    · simp [haway, Phase.seat?] at hpresent

/-- A monitor is told to stop and to watch once more inside the call that begins to watch, while
    this call waits for the number of its listener. It is told to stop again while it is let in, and
    has met a worker by then. While its listener is removed the registration goes and comes back,
    and it enters the room again; it has left the room in the end. The first call adds its listener
    only then, and withdraws it, and a new registration is nothing to the monitor. -/
theorem Reachable.stays_away_interrupted :
    ∃ s t monitor, Reachable s ∧ s.IsCalm 0 ∧ Unbidden 0 (s.move (.call 0 .dispose)) t ∧
      t.stack = [] ∧ t.connection.isUp = true ∧ t.watchers[0]? = some monitor ∧
      monitor.phase = .away ∧ monitor.roster = .empty ∧
      ∀ room id generation, (id, .monitor 0 generation) ∉ t.guests room := by
  have h : Reachable _ := .start true ["brewery"]
  replace h := h.move (.call 0 .init)
  replace h := h.move (.call 0 .dispose)
  replace h := h.move (.call 0 .init)
  iterate 4 replace h := h.move .work
  replace h := h.move (.arrive ⟨0⟩ ⟨"w"⟩ (some (.announcing .idle)))
  iterate 7 replace h := h.move .work
  have told : ∀ {s : Site}, Reachable s → IsCalm s 0 → IsCalm s 0 ∧
    Unbidden 0 (s.move (.call 0 .dispose)) (s.move (.call 0 .dispose)) :=
    fun _ calm => ⟨calm, .refl⟩
  obtain ⟨calm, later⟩ := told h ⟨by decide, by decide, by decide⟩
  replace later := later.move (.setState .unregistered) rfl
  replace later := later.move .work rfl
  replace later := later.move (.setState .registered) rfl
  iterate 28 replace later := later.move .work rfl
  replace later := later.move (.setState .registered) rfl
  replace later := later.move .work rfl
  obtain ⟨away, roster, guests⟩ := h.stays_away calm later (by decide) rfl
  exact ⟨_, _, _, h, calm, later, rfl, rfl, rfl, away, roster, guests⟩

/-- A monitor that is told to stop while a registration is being told, by somebody who hears of it
    first, is told of it all the same, and is in the room in the end. -/
theorem Reachable.stays_away_fails :
    ∃ s t monitor seat, Reachable s ∧ Unbidden 0 (s.move (.call 0 .dispose)) t ∧ t.stack = [] ∧
      t.watchers[0]? = some monitor ∧ monitor.phase = .present seat := by
  have h : Reachable _ := .start false ["brewery"]
  replace h := h.move (.listenToRegistration 0)
  replace h := h.move (.call 0 .init)
  iterate 3 replace h := h.move .work
  replace h := h.move (.setState .registered)
  replace h := h.move .work
  have told : ∀ {s : Site}, Reachable s →
    Unbidden 0 (s.move (.call 0 .dispose)) (s.move (.call 0 .dispose)) := fun _ => .refl
  have later := told h
  iterate 12 replace later := later.move .work rfl
  exact ⟨_, _, _, _, h, later, rfl, rfl, rfl⟩

/-- A monitor that is told to stop when a call of it has just added a listener comes back on a
    registration that is told through this listener, although the listener is withdrawn in the end.
    So such a registration has to count as a bid. -/
theorem Reachable.comes_back_exposed :
    ∃ s t monitor seat, Reachable s ∧ s.IsCalm 0 ∧
      Unbidden 0 ((s.move (.call 0 .dispose)).move (.setState .registered)) t ∧ t.stack = [] ∧
      t.watchers[0]? = some monitor ∧ monitor.phase = .present seat ∧
      t.connection.listeners = [] := by
  have h : Reachable _ := .start false ["brewery"]
  replace h := h.move (.call 0 .init)
  replace h := h.move .work
  have told : ∀ {s : Site}, Reachable s → IsCalm s 0 → IsCalm s 0 ∧
    Unbidden 0 ((s.move (.call 0 .dispose)).move (.setState .registered))
      ((s.move (.call 0 .dispose)).move (.setState .registered)) :=
    fun _ calm => ⟨calm, .refl⟩
  obtain ⟨calm, later⟩ := told h ⟨by decide, by decide, by decide⟩
  iterate 12 replace later := later.move .work rfl
  exact ⟨_, _, _, _, h, calm, later, rfl, rfl, rfl, rfl⟩

end Site

end WorkerRoster
