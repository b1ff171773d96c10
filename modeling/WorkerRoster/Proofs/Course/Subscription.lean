import WorkerRoster.Proofs.Course.Settlement
import WorkerRoster.Proofs.Lasting

/-!
# What a Monitor Owes the Connection

A monitor that is to watch adds a listener for the registration, and owes the connection its removal
once it is disposed of. It keeps the number of one such listener. While an `init` waits for the
number, the monitor may be disposed of: then the `init` finds that its listener is not wanted, and
has it removed. But the monitor may be disposed of and told to watch again by then, and the other
`init` may have its number already. Both listeners are wanted then, as far as the first can tell,
and the number that is kept is overwritten by the one that comes later. Here it is shown that this
is the only way in which a listener is ever left behind.

## Main statements

- `Monitor.minds_turn`: what a turn can do about the registration
- `Course.Reachable.registered_perm`: every listener was removed, is kept, or was overwritten
- `Course.Reachable.isOvertaken_iff`: a number is overwritten where two of them came that were
  wanted, without a `dispose` in between
- `Course.Reachable.exists_subscribing`: who wants to hear does, or a call waits for the number
- `Course.Reachable.subscription_settled`: what is owed in the end
- `Course.Reachable.subscription_settled_overtaken`: a listener that nobody removes
-/

set_option autoImplicit false

namespace WorkerRoster

/-! ## Turns and the registration -/

/-- The listener for the registration that is to be removed. -/
def Request.unregistered? : Request → Option ListenerId
  | .removeRegistrationListener listener => some listener
  | _ => none

/-- The listener whose removal a call asks for. -/
def Pending.unregistered? : Pending → Option ListenerId
  | .withdrawing listener | .unsubscribing listener => some listener
  | _ => none

namespace Cue

/-- What a call has to say about watching: to begin with it, or to stop. -/
def bidding? : Cue → Option Bool
  | .call .init => some true
  | .call .dispose => some false
  | _ => none

/-- Who is given no number has not waited for one. -/
theorem answered_of_registered? {cue : Cue} (h : cue.registered? = none) :
    cue.answered ≠ some .subscribing := by
  cases cue with
  | call _ => simp [answered]
  | reply p r => cases p <;> simp_all [answered, registered?]

end Cue

/-- What a turn of a monitor can do about the registration. -/
inductive Monitor.Minds (m : Monitor) : Cue → Turn → Prop where
  /-- The monitor is to watch from now on. -/
  | begins {t : Turn} (was : m.isSubscribed = false) (wants : t.monitor.isSubscribed = true)
      (subscription : t.monitor.subscription = m.subscription)
      (pending : t.pending = some .subscribing) : Minds m (.call .init) t
  /-- The monitor watches already. -/
  | repeats {t : Turn} (was : m.isSubscribed = true) (monitor : t.monitor = m)
      (pending : t.pending = none) : Minds m (.call .init) t
  /-- The monitor is to watch no more, and gives up the number that it has. -/
  | ends {t : Turn} (wants : t.monitor.isSubscribed = false)
      (subscription : t.monitor.subscription = none)
      (asks : t.pending.bind Pending.unregistered? = m.subscription) : Minds m (.call .dispose) t
  /-- A number comes that is wanted. -/
  | keeps {listener : ListenerId} {t : Turn} (was : m.isSubscribed = true)
      (wants : t.monitor.isSubscribed = true)
      (subscription : t.monitor.subscription = some listener)
      (pending : t.pending = some .probing) : Minds m (.reply .subscribing listener) t
  /-- A number comes that is not wanted any more. -/
  | returns {listener : ListenerId} {t : Turn} (was : m.isSubscribed = false)
      (monitor : t.monitor = m) (pending : t.pending = some (.withdrawing listener)) :
      Minds m (.reply .subscribing listener) t
  /-- The turn has nothing to do with it. -/
  | apart {cue : Cue} {t : Turn} (silent : cue.bidding? = none) (added : cue.registered? = none)
      (wants : t.monitor.isSubscribed = m.isSubscribed)
      (subscription : t.monitor.subscription = m.subscription)
      (asks : t.pending.bind Pending.unregistered? = none) : Minds m cue t

namespace Monitor

variable {m : Monitor} {cue : Cue}

/-- An attempt to enter the room has nothing to do with the registration. -/
theorem minds_tryEnter (m : Monitor) (silent : cue.bidding? = none)
    (added : cue.registered? = none) : m.Minds cue m.tryEnter := by
  unfold tryEnter
  split <;> exact .apart silent added rfl rfl rfl

/-- Whoever stops watching the room keeps the listener for the registration. -/
theorem minds_goAway (m : Monitor) (silent : cue.bidding? = none)
    (added : cue.registered? = none) : m.Minds cue m.goAway := by
  refine .apart silent added rfl rfl ?_
  unfold goAway
  cases m.phase <;> simp [Pending.unregistered?]

theorem minds_arrive (m : Monitor) (generation : UInt64) (seat : Seat)
    (silent : cue.bidding? = none) (added : cue.registered? = none) :
    m.Minds cue (m.arrive generation seat) := by
  unfold arrive
  split <;> exact .apart silent added rfl rfl rfl

theorem minds_fail (m : Monitor) (generation : UInt64) (refusal : Refusal)
    (silent : cue.bidding? = none) (added : cue.registered? = none) :
    m.Minds cue (m.fail generation refusal) := by
  unfold fail
  dsimp only
  split <;> exact .apart silent added rfl rfl rfl

theorem minds_hear (m : Monitor) (generation : UInt64) (n : Notice) :
    m.Minds (.call (.notice generation n)) (m.hear generation n) := by
  unfold hear
  split
  · exact .apart rfl rfl rfl rfl rfl
  · split <;> exact .apart rfl rfl rfl rfl rfl

/-- What a turn does about the registration is one of six things. -/
theorem minds_turn (m : Monitor) (cue : Cue) : m.Minds cue (m.turn cue) := by
  cases cue with
  | call c =>
    cases c with
    | init =>
      simp only [turn, Monitor.begin]
      split
      · next was => exact .repeats was rfl rfl
      · next was => exact .begins (by simpa using was) rfl rfl rfl
    | dispose =>
      simp only [turn, Monitor.begin]
      split
      · next listener held => exact .ends rfl rfl held.symm
      · next held =>
        -- there is no number to give up, so what is asked has to do with the room
        refine .ends rfl held ?_
        rw [held]
        unfold goAway
        cases m.phase <;> simp [Pending.unregistered?]
    | registration state =>
      simp only [turn, Monitor.begin]
      split
      · exact m.minds_tryEnter rfl rfl
      · split
        · exact m.minds_goAway rfl rfl
        · exact .apart rfl rfl rfl rfl rfl
    | notice generation n => exact m.minds_hear generation n
  | reply p r =>
    cases p with
    | subscribing =>
      simp only [turn, resume]
      split
      · next was => exact .keeps was was rfl rfl
      · next was => exact .returns (by simpa using was) rfl rfl
    | probing =>
      simp only [turn, resume]
      split
      · exact m.minds_tryEnter rfl rfl
      · exact .apart rfl rfl rfl rfl rfl
    | unsubscribing _ => exact m.minds_goAway rfl rfl
    | obtaining generation =>
      cases r with
      | ok room => exact .apart rfl rfl rfl rfl rfl
      | error refusal => exact m.minds_fail generation refusal rfl rfl
    | entering generation seat =>
      cases r with
      | ok _ => exact m.minds_arrive generation seat rfl rfl
      | error refusal => exact .apart rfl rfl rfl rfl rfl
    | retreating generation _ refusal => exact m.minds_fail generation refusal rfl rfl
    | withdrawing _ | listening _ _ | releasing _ _ | leaving _ _ =>
      exact .apart rfl rfl rfl rfl rfl

end Monitor

namespace Episode

theorem minds (e : Episode) : e.monitor.Minds e.cue e.turn :=
  e.monitor.minds_turn e.cue

/-- Whether a number came that was wanted. -/
def isKept (e : Episode) : Bool :=
  e.cue.registered?.isSome && e.monitor.isSubscribed

/-- The number that was kept before, where one came that is kept instead. -/
def overwritten? (e : Episode) : Option ListenerId :=
  if e.isKept then e.monitor.subscription else none

theorem asks_unregistered? (e : Episode) :
    e.asks.bind Request.unregistered? = e.turn.pending.bind Pending.unregistered? := by
  unfold asks
  cases e.turn.pending with
  | none => rfl
  | some p => cases p <;> rfl

/-- A turn passes on the number of a listener for the registration: the one that has just come, or
    the one that was kept, is kept afterwards, or its removal is asked for, or it was
    overwritten. -/
theorem registration_balance (e : Episode) :
    (e.cue.registered?.toList ++ e.monitor.subscription.toList).Perm
      (((e.asks.bind Request.unregistered?).or e.overwritten?).toList ++
        e.turn.monitor.subscription.toList) := by
  have hminds := e.minds
  rw [e.asks_unregistered?]
  unfold overwritten? isKept
  generalize e.turn = t at hminds ⊢
  generalize e.cue = cue at hminds ⊢
  cases hminds with
  | begins _ _ subscription pending =>
    simp [Cue.registered?, subscription, pending, Pending.unregistered?]
  | repeats _ monitor pending => simp [Cue.registered?, monitor, pending]
  | ends _ subscription asks => simp [Cue.registered?, subscription, asks]
  | keeps was _ subscription pending =>
    simpa [Cue.registered?, was, subscription, pending, Pending.unregistered?] using
      (List.perm_append_singleton _ _).symm
  | returns was monitor pending =>
    simp [Cue.registered?, was, monitor, pending, Pending.unregistered?]
  | apart _ added _ subscription asks => simp [added, subscription, asks]

end Episode

namespace Course

variable {room : String} {c c' : Course}

/-! ## Accounts -/

/-- The listeners for the registration that were added, in order. -/
def registered (c : Course) : List ListenerId :=
  c.history.filterMap (·.cue.registered?)

/-- The listeners for the registration whose removal was asked for, in order. -/
def unregistered (c : Course) : List ListenerId :=
  c.history.filterMap (·.asks.bind Request.unregistered?)

/-- The listeners for the registration whose numbers were overwritten, in order. -/
def overwritten (c : Course) : List ListenerId :=
  c.history.filterMap (·.overwritten?)

/-- Whether the last call that had something to say about watching was to begin with it. -/
def isBidden (c : Course) : Bool :=
  (c.history.filterMap (·.cue.bidding?)).getLast?.getD false

/-- What is said by one of two, and never by both, is said by the one or by the other. -/
theorem filterMap_or_perm {α β : Type} {f g : α → Option β} {as : List α}
    (apart : ∀ a ∈ as, f a = none ∨ g a = none) :
    (as.filterMap fun a => (f a).or (g a)).Perm (as.filterMap f ++ as.filterMap g) := by
  induction as with
  | nil => simp
  | cons a as ih =>
    have hrest := ih fun b hb => apart b (List.mem_cons_of_mem a hb)
    rcases apart a List.mem_cons_self with hf | hg
    · cases hg : g a with
      | none => simpa [hf, hg] using hrest
      | some b => simpa [hf, hg] using (hrest.cons b).trans List.perm_middle.symm
    · cases hf : f a with
      | none => simpa [hf, hg] using hrest
      | some b => simpa [hf, hg] using hrest

/-- Every listener that was added was removed, or its number was overwritten, or is kept. -/
theorem Reachable.registered_perm (h : Reachable room c) :
    c.registered.Perm (c.unregistered ++ c.overwritten ++ c.monitor.subscription.toList) := by
  have hspent := h.conserves (·.cue.registered?)
    (fun e => (e.asks.bind Request.unregistered?).or e.overwritten?) (fun _ => none)
    (·.subscription) rfl fun e => by simpa using e.registration_balance
  -- where a number is kept, none is given back
  have hapart : ∀ e ∈ c.history,
      e.asks.bind Request.unregistered? = none ∨ e.overwritten? = none := by
    intro e _
    have hminds := e.minds
    rw [e.asks_unregistered?]
    unfold Episode.overwritten? Episode.isKept
    generalize e.turn = t at hminds ⊢
    generalize e.cue = cue at hminds ⊢
    cases hminds with
    | keeps _ _ _ pending => simp [pending, Pending.unregistered?]
    | returns was => simp [was]
    | begins | repeats | ends => simp [Cue.registered?]
    | apart _ added => simp [added]
  have hsplit := filterMap_or_perm hapart
  rw [List.filterMap_none, List.append_nil] at hspent
  exact hspent.trans (hsplit.append_right _)

/-! ## What is wanted -/

/-- A monitor wants to hear about the registration if it was told so last. -/
theorem Reachable.isSubscribed_eq (h : Reachable room c) :
    c.monitor.isSubscribed = c.isBidden := by
  induction h with
  | start => rfl
  | @step c c' _ hstep ih =>
    obtain ⟨call, cue, front, back, rfl, -⟩ := hstep.exists_advance
    have hminds := c.monitor.minds_turn cue
    unfold isBidden at ih ⊢
    simp only [advance, Episode.turn, List.filterMap_append]
    generalize c.monitor.turn cue = t at hminds ⊢
    cases hminds with
    | begins _ wants | ends wants => simp [Cue.bidding?, wants]
    | repeats was monitor => simp [Cue.bidding?, was, monitor]
    | keeps was wants => simpa [Cue.bidding?, was, wants] using ih
    | returns _ monitor => simpa [Cue.bidding?, monitor] using ih
    | apart silent _ wants => simpa [silent, wants] using ih

/-- A monitor that has the number of a listener wants to hear about the registration. -/
theorem Reachable.isSubscribed_of_subscription (h : Reachable room c)
    (held : c.monitor.subscription.isSome) : c.monitor.isSubscribed := by
  revert held
  apply h.keeps (P := fun m => m.subscription.isSome → m.isSubscribed)
  · simp
  · intro m cue ih
    have hminds := m.minds_turn cue
    generalize m.turn cue = t at hminds ⊢
    cases hminds with
    | begins _ wants | keeps _ wants => simp [wants]
    | repeats _ monitor | returns _ monitor => simpa [monitor] using ih
    | ends _ subscription => simp [subscription]
    | apart _ _ wants subscription => simpa [wants, subscription] using ih

/-- A call that waits goes on to wait, unless it is the one that has its reply. -/
theorem waits_advance {call : Nat} {cue : Cue} {front back : List Waiting} {w : Waiting}
    (split : c.waiting = front ++ (cue.answered.map (Waiting.mk call)).toList ++ back)
    (waits : w ∈ c.waiting) (other : cue.answered ≠ some w.pending) :
    w ∈ (c.advance call cue front back).waiting := by
  rw [mem_waiting_advance]
  left
  rw [split] at waits
  simp only [List.mem_append, Option.mem_toList, Option.map_eq_some_iff] at waits ⊢
  rcases waits with (hw | ⟨p, hp, rfl⟩) | hw
  · exact .inl hw
  · exact absurd hp other
  · exact .inr hw

/-- A monitor that wants to hear about the registration and has no number yet has a call that waits
    for one. -/
theorem Reachable.exists_subscribing (h : Reachable room c) (wants : c.monitor.isSubscribed)
    (missing : c.monitor.subscription = none) : ∃ w ∈ c.waiting, w.pending = .subscribing := by
  induction h with
  | start => cases wants
  | @step c c' _ hstep ih =>
    obtain ⟨call, cue, front, back, rfl, hwaiting⟩ := hstep.exists_advance
    have hminds := c.monitor.minds_turn cue
    have hmem := c.mem_waiting_advance call cue front back
    have hstays : cue.registered? = none → c.monitor.isSubscribed →
        c.monitor.subscription = none →
        ∃ w ∈ (c.advance call cue front back).waiting, w.pending = .subscribing := by
      intro hnone hwants hmissing
      obtain ⟨w, hw, hpending⟩ := ih hwants hmissing
      refine ⟨w, waits_advance hwaiting hw ?_, hpending⟩
      rw [hpending]
      exact Cue.answered_of_registered? hnone
    simp only [advance, Episode.turn] at wants missing
    generalize c.monitor.turn cue = t at hminds wants missing hmem
    cases hminds with
    | begins _ _ _ pending => exact ⟨⟨call, .subscribing⟩, (hmem _).2 (.inr ⟨rfl, pending⟩), rfl⟩
    | repeats was monitor => exact hstays rfl was (monitor ▸ missing)
    | ends stopped => simp [stopped] at wants
    | keeps _ _ subscription => simp [subscription] at missing
    | returns was monitor => simp [monitor, was] at wants
    | apart _ added same subscription => exact hstays added (same ▸ wants) (subscription ▸ missing)

/-! ## Numbers that are overwritten -/

/-- Whether a number that was wanted came, and the monitor was not disposed of since. -/
def IsHeld : List Episode → Prop :=
  Lasts (·.isKept) (·.cue = .call .dispose)

theorem not_isHeld_nil : ¬ IsHeld [] :=
  not_lasts_nil

theorem isHeld_concat {es : List Episode} {e : Episode} :
    IsHeld (es ++ [e]) ↔ e.isKept ∨ IsHeld es ∧ e.cue ≠ .call .dispose :=
  lasts_concat

/-- A monitor has a number if one came that was wanted, and it was not disposed of since. -/
theorem Reachable.isSome_subscription_iff (h : Reachable room c) :
    c.monitor.subscription.isSome ↔ IsHeld c.history := by
  induction h with
  | start => simpa using not_isHeld_nil
  | @step c c' _ hstep ih =>
    obtain ⟨call, cue, front, back, rfl, -⟩ := hstep.exists_advance
    have hminds := c.monitor.minds_turn cue
    simp only [advance, Episode.turn, isHeld_concat, Episode.isKept]
    generalize c.monitor.turn cue = t at hminds ⊢
    cases hminds with
    | begins _ _ subscription => simpa [Cue.registered?, subscription] using ih
    | repeats _ monitor => simpa [Cue.registered?, monitor] using ih
    | ends _ subscription => simp [Cue.registered?, subscription]
    | keeps was _ subscription => simp [Cue.registered?, was, subscription]
    | returns was monitor => simpa [Cue.registered?, was, monitor] using ih
    | apart silent added _ subscription =>
      have hcue : cue ≠ .call .dispose := by
        rintro rfl
        cases silent
      simpa [added, subscription, hcue] using ih

/-- Whether two numbers came that were wanted, without a `dispose` in between. The `init` that is
    given the second waited for it when the first came, or the first would not have been wanted. -/
def IsOvertaken (c : Course) : Prop :=
  ∃ before first between second after,
    c.history = before ++ first :: between ++ second :: after ∧ first.isKept ∧ second.isKept ∧
      ∀ e ∈ between, e.cue ≠ .call .dispose

/-- Numbers are overwritten where one `init` is overtaken by another. -/
theorem Reachable.isOvertaken_iff (h : Reachable room c) :
    c.IsOvertaken ↔ c.overwritten ≠ [] := by
  -- a number is overwritten in a turn if another is kept before it
  have hturn : ∀ before e after, c.history = before ++ e :: after →
      (e.overwritten?.isSome ↔ e.isKept ∧ IsHeld before) := by
    intro before e after hsplit
    obtain ⟨c₀, hbefore, hhistory, hmonitor, -⟩ := h.exists_before hsplit
    have hheld := hbefore.isSome_subscription_iff
    rw [hhistory, hmonitor] at hheld
    unfold Episode.overwritten?
    split
    · next hkept => simp [hkept, hheld]
    · next hkept => simp [hkept]
  have hsome : c.overwritten ≠ [] ↔ ∃ e ∈ c.history, e.overwritten?.isSome := by
    simp only [overwritten, ne_eq, List.filterMap_eq_nil_iff, not_forall, exists_prop]
    apply exists_congr
    intro e
    simp [Option.isSome_iff_ne_none]
  rw [hsome]
  constructor
  · rintro ⟨before, first, between, second, after, hsplit, hfirst, hsecond, hbetween⟩
    refine ⟨second, by simp [hsplit], ?_⟩
    exact (hturn _ _ _ hsplit).2 ⟨hsecond, before, first, between, rfl, hfirst, hbetween⟩
  · rintro ⟨second, hmem, hover⟩
    obtain ⟨front, after, hsplit⟩ := List.append_of_mem hmem
    obtain ⟨hsecond, before, first, between, rfl, hfirst, hbetween⟩ :=
      (hturn _ _ _ hsplit).1 hover
    exact ⟨before, first, between, second, after, hsplit, hfirst, hsecond, hbetween⟩

/-! ## In the end -/

/-- A monitor wants to hear about the registration if the last call that said anything about it was
    `init` and not `dispose`. Of the listeners that were added and not removed, one is the one whose
    number it has, if it has one, and there is no other unless an `init` was overtaken: those whose
    numbers were overwritten are left behind. Whenever no call waits, a monitor that wants to hear
    has a number, and one that does not has none. -/
theorem Reachable.subscription_settled (h : Reachable room c) :
    c.monitor.isSubscribed = c.isBidden ∧
      c.registered.Perm (c.unregistered ++ c.overwritten ++ c.monitor.subscription.toList) ∧
      (c.registered.Perm (c.unregistered ++ c.monitor.subscription.toList) ↔ ¬ c.IsOvertaken) ∧
      (c.waiting = [] → c.monitor.subscription.isSome = c.monitor.isSubscribed) := by
  have hperm := h.registered_perm
  refine ⟨h.isSubscribed_eq, hperm, ?overtaken, fun hnobody => ?subscribed⟩
  case overtaken =>
    rw [h.isOvertaken_iff, not_not]
    constructor
    · -- both accounts are of the same length
      intro hplain
      have hlength := hplain.length_eq.symm.trans hperm.length_eq
      simp only [List.length_append] at hlength
      exact List.eq_nil_of_length_eq_zero (by omega)
    · intro hnone
      simpa [hnone] using hperm
  case subscribed =>
    rw [Bool.eq_iff_iff]
    constructor
    · exact h.isSubscribed_of_subscription
    · intro hwants
      by_contra hmissing
      obtain ⟨w, hw, -⟩ := h.exists_subscribing hwants (by simpa using hmissing)
      simp [hnobody] at hw

/-- An `init` during which the monitor is disposed of has its listener removed again, and another
    `init` after that leaves one. -/
theorem Reachable.subscription_settled_withdrawn :
    ∃ c, Reachable "brewery" c ∧ c.waiting = [] ∧ c.registered = [⟨1⟩, ⟨2⟩] ∧
      c.unregistered = [⟨1⟩] ∧ c.monitor.subscription = some ⟨2⟩ ∧ c.isBidden = true ∧
      ¬ c.IsOvertaken ∧ c.monitor.subscription.isSome = c.monitor.isSubscribed := by
  have h : Reachable "brewery" _ := .start
  replace h := h.step (.begin .init)
  replace h := h.step (.begin .dispose)
  replace h := h.step (.resume [] [] rfl (⟨1⟩ : ListenerId))
  replace h := h.step (.resume [] [] rfl ())
  replace h := h.step (.begin .init)
  replace h := h.step (.resume [] [] rfl (⟨2⟩ : ListenerId))
  replace h := h.step (.resume [] [] rfl false)
  obtain ⟨hbidden, -, hovertaken, hsubscribed⟩ := h.subscription_settled
  exact ⟨_, h, rfl, rfl, rfl, rfl, hbidden.symm, hovertaken.1 (.refl _), hsubscribed rfl⟩

/-- A monitor is disposed of and told to watch again while an `init` waits for its number. Two
    listeners are there then, of which it knows one, so the other stays when it is disposed of for
    good. -/
theorem Reachable.subscription_settled_overtaken :
    ∃ c c', Reachable "brewery" c ∧ c.waiting = [] ∧ c.isBidden = true ∧
      c.registered = [⟨1⟩, ⟨2⟩] ∧ c.unregistered = [] ∧ c.monitor.subscription = some ⟨2⟩ ∧
      Reachable "brewery" c' ∧ c'.waiting = [] ∧ c'.isBidden = false ∧
      c'.registered = [⟨1⟩, ⟨2⟩] ∧ c'.unregistered = [⟨2⟩] := by
  have h : Reachable "brewery" _ := .start
  replace h := h.step (.begin .init)
  replace h := h.step (.begin .dispose)
  replace h := h.step (.begin .init)
  -- the second `init` is given its number before the first
  replace h := h.step (.resume [] [_] rfl (⟨1⟩ : ListenerId))
  replace h := h.step (.resume [] [_] rfl false)
  replace h := h.step (.resume [] [] rfl (⟨2⟩ : ListenerId))
  replace h := h.step (.resume [] [] rfl false)
  have later := h.step (.begin .dispose)
  replace later := later.step (.resume [] [] rfl ())
  exact ⟨_, _, h, rfl, rfl, rfl, rfl, rfl, later, rfl, rfl, rfl, rfl⟩

end Course

end WorkerRoster
