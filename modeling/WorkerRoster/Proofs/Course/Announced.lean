import WorkerRoster.Proofs.Course.Knowledge
import WorkerRoster.Proofs.Roster.Fate

/-!
# What Is Announced in the Course of Events

Announcements are all that is heard of a roster outside. Here it is shown that they tell the truth,
whatever the connection and the room do. Each stay of a worker on the roster is announced to be over
once, and only when it is over; and the last announcement about a worker says what the roster says,
unless the worker has shown a status since that means nothing here.

Both follow from what one turn can do to one worker: nothing, or the worker shows a status, or it
goes.

## Main statements

- `Monitor.fate_turn`: what happens to a worker in a turn
- `Course.Reachable.offline_balanced`: a worker is announced to be gone once for each stay
- `Course.Reachable.last_announcement_agrees`: the last announcement about a worker agrees with the
  roster
-/

set_option autoImplicit false

namespace WorkerRoster

/-! ## One turn -/

namespace Monitor

/-- The status that a worker is seen with in a turn. -/
def seen? (m : Monitor) (w : WorkerId) : Cue → Option Status
  | .call (.notice generation n) =>
    if m.heeds generation then (if n.occupant.id = w then n.status? else none) else none
  | _ => none

/-- What happens to a worker in a turn. -/
theorem fate_turn (m : Monitor) (h : m.roster.IsDistinct) (w : WorkerId) (cue : Cue) :
    Fate w (m.seen? w cue) (m.roster.find? w) (about w (announcements (m.turn cue).effects))
      ((m.turn cue).monitor.roster.find? w) := by
  have htakes := m.takes_turn cue
  generalize m.turn cue = t at htakes
  -- most turns leave the roster as it is, and announce nothing
  have hsilent : ∀ seen, t.monitor.roster = m.roster → announcements t.effects = [] →
      Fate w seen (m.roster.find? w) (about w (announcements t.effects))
        (t.monitor.roster.find? w) := by
    intro seen hroster hannounced
    rw [hroster, hannounced]
    exact .stays _
  cases htakes with
  | aside _ _ _ _ roster silent => exact hsilent _ roster silent
  | @sees generation n status _ heeds tells monitor _ announced =>
    have hseen : m.seen? w (.call (.notice generation n)) =
        if n.occupant.id = w then some status else none := by
      simp [seen?, heeds, tells]
    rw [hseen, monitor, announced]
    exact Roster.fate_track h w n.occupant.id status
  | fails _ _ monitor _ announced =>
    rw [monitor, announced]
    exact Roster.fate_dismiss h w _
  | stops _ _ _ roster _ announced =>
    rw [roster, announced]
    exact Roster.fate_dismiss h w _
  | begins _ _ monitor _ silent | arrives _ monitor _ silent | forgets _ _ monitor _ silent
  | leaves monitor _ silent =>
    exact hsilent _ (by rw [monitor]) silent
  | obtains monitor _ silent | listens monitor _ silent | overtaken _ monitor _ silent
  | refused monitor _ silent | releases monitor _ silent =>
    exact hsilent _ (by rw [monitor]) (by rw [silent]; rfl)

end Monitor

namespace Episode

/-- What is announced in a turn. -/
def announced (e : Episode) : List Announcement :=
  announcements e.turn.effects

/-- The status that a worker is seen with in a turn. -/
def seen? (w : WorkerId) (e : Episode) : Option Status :=
  e.monitor.seen? w e.cue

/-- Whether a worker comes in a turn: it was not known, and is known now. -/
def isComing (w : WorkerId) (e : Episode) : Bool :=
  !e.monitor.roster.contains w && e.turn.monitor.roster.contains w

theorem fate (e : Episode) (h : e.monitor.roster.IsDistinct) (w : WorkerId) :
    Fate w (e.seen? w) (e.monitor.roster.find? w) (about w e.announced)
      (e.turn.monitor.roster.find? w) :=
  e.monitor.fate_turn h w e.cue

theorem count_about (w : WorkerId) (as : List Announcement) :
    (about w as).count (.offline w) = as.count (.offline w) :=
  List.count_filter (by simp [Announcement.worker])

/-- If a worker is announced to be gone in a turn, or comes in it, it is known afterwards just as
    often as it was before. -/
theorem stay_balance (e : Episode) (h : e.monitor.roster.IsDistinct) (w : WorkerId) :
    e.announced.count (.offline w) + (if e.turn.monitor.roster.contains w then 1 else 0) =
      (if e.monitor.roster.contains w then 1 else 0) + if e.isComing w then 1 else 0 := by
  have hfate := e.fate h w
  rw [← count_about, isComing, ← Roster.isSome_find?, ← Roster.isSome_find?]
  generalize e.monitor.roster.find? w = known at hfate ⊢
  generalize e.turn.monitor.roster.find? w = known' at hfate ⊢
  generalize about w e.announced = as at hfate ⊢
  cases hfate with
  | stays => cases known <;> simp
  | @shows status =>
    -- what is announced then is not that the worker is gone
    have hnone : (status.availability.map (Announcement.availability w)).toList.count
        (.offline w) = 0 := by
      cases status.availability <;> simp
    rw [hnone]
    cases known <;> simp
  | goes => simp

/-- A worker that is announced to be gone in a turn was known before, and is announced so once. -/
theorem of_offline (e : Episode) (h : e.monitor.roster.IsDistinct) {w : WorkerId}
    (hoffline : .offline w ∈ e.announced) :
    e.monitor.roster.contains w = true ∧ e.announced.count (.offline w) = 1 := by
  have hpos : 0 < e.announced.count (.offline w) := List.count_pos_iff.2 hoffline
  have hfate := e.fate h w
  rw [← count_about] at hpos ⊢
  rw [← Roster.isSome_find?]
  generalize e.monitor.roster.find? w = known at hfate ⊢
  generalize e.turn.monitor.roster.find? w = known' at hfate
  generalize about w e.announced = as at hfate hpos ⊢
  cases hfate with
  | stays => simp at hpos
  | @shows status => cases hs : status.availability <;> simp [hs] at hpos
  | goes => simp

end Episode

namespace Course

variable {room : String} {c : Course}

/-! ## Each stay is over once -/

/-- What was announced so far, in order. -/
def announced (c : Course) : List Announcement :=
  c.history.flatMap (·.announced)

/-- How often a worker came so far. -/
def comings (c : Course) (w : WorkerId) : Nat :=
  c.history.countP (·.isComing w)

theorem Reachable.isDistinct (h : Reachable room c) : c.monitor.roster.IsDistinct := by
  have hconsistent : c.monitor.IsConsistent :=
    h.keeps (Monitor.isConsistent_new room) fun _ cue hm => hm.turn cue
  exact hconsistent.distinct

/-- How often a worker came is how often it was announced to be gone, and once more if it is
    known. -/
theorem Reachable.comings_eq (h : Reachable room c) (w : WorkerId) :
    c.comings w =
      c.announced.count (.offline w) + if c.monitor.roster.contains w then 1 else 0 := by
  induction h with
  | start => rfl
  | @step c c' hreachable hstep ih =>
    obtain ⟨call, cue, front, back, rfl, -⟩ := hstep.exists_advance
    have hturn := Episode.stay_balance ⟨call, c.monitor, cue⟩ hreachable.isDistinct w
    have hcomings : (c.advance call cue front back).comings w =
        c.comings w + if (⟨call, c.monitor, cue⟩ : Episode).isComing w then 1 else 0 := by
      simp [comings, advance, List.countP_append, List.countP_singleton]
    have hannounced : (c.advance call cue front back).announced =
        c.announced ++ (⟨call, c.monitor, cue⟩ : Episode).announced := by
      simp [announced, advance]
    rw [hcomings, hannounced, List.count_append]
    show _ = _ + if (Episode.turn ⟨call, c.monitor, cue⟩).monitor.roster.contains w then 1 else 0
    dsimp only at hturn
    omega

/-- Each stay of a worker is announced to be over once. Throughout, a worker came as often as it was
    announced to be gone, and once more if it is known; whoever is announced to be gone was known,
    and is announced so once; and between two such announcements the worker came. -/
theorem Reachable.offline_balanced (h : Reachable room c) (w : WorkerId) :
    (c.comings w =
      c.announced.count (.offline w) + if c.monitor.roster.contains w then 1 else 0) ∧
    (∀ e ∈ c.history, .offline w ∈ e.announced →
      e.monitor.roster.contains w = true ∧ e.announced.count (.offline w) = 1) ∧
    ∀ before e between e' after, c.history = before ++ e :: (between ++ e' :: after) →
      .offline w ∈ e.announced → .offline w ∈ e'.announced →
        ∃ x ∈ between, x.isComing w = true := by
  have hknown : ∀ before e after, c.history = before ++ e :: after → .offline w ∈ e.announced →
      e.monitor.roster.contains w = true ∧ e.announced.count (.offline w) = 1 := by
    intro before e after hsplit hoffline
    obtain ⟨c₀, hreachable, -, hmonitor, -⟩ := h.exists_before hsplit
    exact e.of_offline (hmonitor ▸ hreachable.isDistinct) hoffline
  refine ⟨h.comings_eq w, ?known, ?between⟩
  case known =>
    intro e he
    obtain ⟨before, after, hsplit⟩ := List.append_of_mem he
    exact hknown before e after hsplit
  case between =>
    intro before e between e' after hsplit he he'
    have hsplit' : c.history = (before ++ e :: between) ++ e' :: after := by simp [hsplit]
    obtain ⟨hin, honce⟩ := hknown before e _ hsplit he
    obtain ⟨hin', -⟩ := hknown _ e' after hsplit' he'
    -- the balance before the first announcement, and that before the second
    obtain ⟨c₁, h₁, hhistory₁, hmonitor₁, -⟩ := h.exists_before hsplit
    obtain ⟨c₂, h₂, hhistory₂, hmonitor₂, -⟩ := h.exists_before hsplit'
    have hfirst := h₁.comings_eq w
    have hsecond := h₂.comings_eq w
    rw [hmonitor₁, if_pos hin, comings, announced, hhistory₁] at hfirst
    rw [hmonitor₂, if_pos hin', comings, announced, hhistory₂] at hsecond
    have hnot : e.isComing w = false := by simp [Episode.isComing, hin]
    simp only [List.countP_append, List.countP_cons, hnot, List.flatMap_append, List.flatMap_cons,
      List.count_append, honce] at hsecond
    have hpos : 0 < between.countP (·.isComing w) := by
      simp only [Bool.false_eq_true, if_false] at hsecond
      omega
    obtain ⟨x, hx, hcoming⟩ := List.countP_pos_iff.1 hpos
    exact ⟨x, hx, hcoming⟩

/-- A worker that is met by an attempt that is refused then, leaves during the next attempt, and
    comes back, has come three times and was announced to be gone twice. -/
theorem Reachable.offline_balanced_refused :
    ∃ c, Reachable "brewery" c ∧ c.waiting = [] ∧ c.comings ⟨"a"⟩ = 3 ∧
      c.announced.count (.offline ⟨"a"⟩) = 2 ∧ c.monitor.roster.contains ⟨"a"⟩ = true ∧
      ∃ before e between e' after, c.history = before ++ e :: (between ++ e' :: after) ∧
        .offline ⟨"a"⟩ ∈ e.announced ∧ .offline ⟨"a"⟩ ∈ e'.announced ∧
        ∃ x ∈ between, x.isComing ⟨"a"⟩ = true := by
  have h : Reachable "brewery" _ := .start
  replace h := h.step (.begin (.registration .registered))
  replace h := h.step (.resume [] [] rfl (.ok ⟨0⟩ : Except Refusal RoomRef))
  replace h := h.step (.resume [] [] rfl (⟨1⟩ : ListenerId))
  replace h := h.step (.begin (.notice 1 ⟨.joined, ⟨⟨"a"⟩, some (.announcing .idle)⟩⟩))
  replace h := h.step (.resume [] [] rfl (.error (.entry "full") : Except Refusal Unit))
  replace h := h.step (.resume [] [] rfl ())
  -- the second attempt
  replace h := h.step (.begin (.registration .registered))
  replace h := h.step (.resume [] [] rfl (.ok ⟨0⟩ : Except Refusal RoomRef))
  replace h := h.step (.resume [] [] rfl (⟨2⟩ : ListenerId))
  replace h := h.step (.begin (.notice 3 ⟨.joined, ⟨⟨"a"⟩, some (.announcing .busy)⟩⟩))
  replace h := h.step (.begin (.notice 3 ⟨.left, ⟨⟨"a"⟩, none⟩⟩))
  replace h := h.step (.begin (.notice 3 ⟨.joined, ⟨⟨"a"⟩, some (.announcing .idle)⟩⟩))
  replace h := h.step (.resume [] [] rfl (.ok () : Except Refusal Unit))
  obtain ⟨hbalance, -, hbetween⟩ := h.offline_balanced ⟨"a"⟩
  refine ⟨_, h, rfl, hbalance, rfl, rfl,
    [_, _, _, _, _], _, [_, _, _, _], _, [_, _], rfl, ?_, ?_, ?_⟩
  · exact .head _
  · exact .head _
  · exact hbetween [_, _, _, _, _] _ [_, _, _, _] _ [_, _] rfl (.head _) (.head _)

/-! ## The last announcement -/

/-- The last announcement about a worker. -/
def lastAbout? (c : Course) (w : WorkerId) : Option Announcement :=
  (about w c.announced).getLast?

/-- Whether a worker was seen with a status after the last announcement about it. -/
def IsSeenSince (c : Course) (w : WorkerId) (status : Status) : Prop :=
  ∃ before e after, c.history = before ++ e :: after ∧ e.seen? w = some status ∧
    ∀ x ∈ e :: after, about w x.announced = []

/-- How the last announcement about a worker can agree with what is known of it. -/
inductive Agrees (c : Course) (w : WorkerId) : Prop where
  | unknown (known : c.monitor.roster.find? w = none)
      (last : c.lastAbout? w = none ∨ c.lastAbout? w = some (.offline w))
  | told {status : Status} {available : Bool}
      (known : c.monitor.roster.find? w = some ⟨w, status⟩)
      (means : status.availability = some available)
      (last : c.lastAbout? w = some (.availability w available))
  /-- It has shown something since that means nothing. -/
  | untold {raw : String} (known : c.monitor.roster.find? w = some ⟨w, .unrecognized raw⟩)
      (since : c.IsSeenSince w (.unrecognized raw))

theorem lastAbout?_advance (c : Course) (call : Nat) (cue : Cue) (front back : List Waiting)
    (w : WorkerId) :
    (c.advance call cue front back).lastAbout? w =
      (about w (⟨call, c.monitor, cue⟩ : Episode).announced).getLast?.or (c.lastAbout? w) := by
  simp [lastAbout?, announced, advance, about, List.getLast?_append]

/-- A turn in which nothing is announced about a worker leaves it seen as it was. -/
theorem IsSeenSince.advance {w : WorkerId} {status : Status} (h : c.IsSeenSince w status)
    {call : Nat} {cue : Cue} (silent : about w (⟨call, c.monitor, cue⟩ : Episode).announced = [])
    (front back : List Waiting) : (c.advance call cue front back).IsSeenSince w status := by
  obtain ⟨before, e, after, hsplit, hseen, hall⟩ := h
  refine ⟨before, e, after ++ [⟨call, c.monitor, cue⟩], by simp [Course.advance, hsplit], hseen, ?_⟩
  intro x hx
  rw [← List.cons_append] at hx
  rcases List.mem_append.1 hx with hx | hx
  · exact hall x hx
  · rw [List.mem_singleton.1 hx]
    exact silent

/-- A turn keeps the last announcement about a worker in agreement with what is known of it. -/
theorem Agrees.advance {w : WorkerId} (h : c.Agrees w) (distinct : c.monitor.roster.IsDistinct)
    (call : Nat) (cue : Cue) (front back : List Waiting) :
    (c.advance call cue front back).Agrees w := by
  have hlast := c.lastAbout?_advance call cue front back w
  have hfate := Episode.fate ⟨call, c.monitor, cue⟩ distinct w
  -- what the turn announces about the worker, and how the worker is known after it
  generalize habout : about w (⟨call, c.monitor, cue⟩ : Episode).announced = as at hlast hfate
  generalize hknown : (Episode.turn ⟨call, c.monitor, cue⟩).monitor.roster.find? w = known' at hfate
  generalize hknown₀ : c.monitor.roster.find? w = known at hfate
  cases hfate with
  | stays =>
    have hsame : (c.advance call cue front back).lastAbout? w = c.lastAbout? w := by
      rw [hlast]
      rfl
    cases h with
    | unknown hnone last =>
      refine .unknown (hknown.trans (hknown₀.symm.trans hnone)) ?_
      rw [hsame]
      exact last
    | told hfound means last =>
      exact .told (hknown.trans (hknown₀.symm.trans hfound)) means (hsame.trans last)
    | untold hfound since =>
      exact .untold (hknown.trans (hknown₀.symm.trans hfound)) (since.advance habout front back)
  | @shows status _ seen_eq defined =>
    cases means : status.availability with
    | some available =>
      refine .told hknown means ?_
      rw [hlast, means]
      rfl
    | none =>
      -- nothing is announced, and the worker has been seen just now
      obtain ⟨raw, rfl⟩ : ∃ raw, status = .unrecognized raw := by
        cases status <;> simp_all [Status.availability]
      refine .untold hknown ⟨c.history, ⟨call, c.monitor, cue⟩, [], rfl, seen_eq, ?_⟩
      intro x hx
      rw [List.mem_singleton.1 hx, habout]
      rfl
  | goes =>
    refine .unknown hknown (.inr ?_)
    rw [hlast]
    rfl

theorem Reachable.agrees (h : Reachable room c) (w : WorkerId) : c.Agrees w := by
  induction h with
  | start => exact .unknown rfl (.inl rfl)
  | @step c c' hreachable hstep ih =>
    obtain ⟨call, cue, front, back, rfl, -⟩ := hstep.exists_advance
    exact ih.advance hreachable.isDistinct call cue front back

theorem statusOf?_eq_some {m : Monitor} {w : WorkerId} {status : Status}
    (h : m.roster.find? w = some ⟨w, status⟩) : m.statusOf? w = some status := by
  rw [Monitor.statusOf?, h]
  rfl

/-- The last announcement about a worker agrees with the roster. Throughout, if a worker is known as
    idle or as busy, that is what was announced last; if it is not known, nothing was announced
    about it, or last that it was gone; and if its availability was announced last, it is known with
    the status that says so, or with one that means nothing and that it was seen with since. -/
theorem Reachable.last_announcement_agrees (h : Reachable room c) (w : WorkerId) :
    (c.monitor.statusOf? w = some .idle → c.lastAbout? w = some (.availability w true)) ∧
    (c.monitor.statusOf? w = some .busy → c.lastAbout? w = some (.availability w false)) ∧
    (c.monitor.statusOf? w = none → c.lastAbout? w = none ∨ c.lastAbout? w = some (.offline w)) ∧
    ∀ available, c.lastAbout? w = some (.availability w available) →
      c.monitor.statusOf? w = some (if available then .idle else .busy) ∨
      ∃ raw, c.monitor.statusOf? w = some (.unrecognized raw) ∧
        c.IsSeenSince w (.unrecognized raw) := by
  cases h.agrees w with
  | unknown known last =>
    have hstatus : c.monitor.statusOf? w = none := by
      rw [Monitor.statusOf?, known]
      rfl
    rw [hstatus]
    refine ⟨by simp, by simp, fun _ => last, ?_⟩
    intro available hlast
    rcases last with last | last <;> simp [hlast] at last
  | @told status available known means last =>
    rw [statusOf?_eq_some known, last]
    -- there are two statuses that say anything
    have hsays : status = .idle ∧ available = true ∨ status = .busy ∧ available = false := by
      cases status <;> simp_all [Status.availability]
    rcases hsays with ⟨rfl, rfl⟩ | ⟨rfl, rfl⟩
    · simp
    · simp
  | @untold raw known since =>
    rw [statusOf?_eq_some known]
    exact ⟨by simp, by simp, by simp, fun _ _ => .inr ⟨raw, rfl, since⟩⟩

/-- A worker that was idle shows something that means nothing, another one is busy, and a third one
    has gone and shows nothing any more. -/
theorem Reachable.last_announcement_agrees_unrecognized :
    ∃ c, Reachable "brewery" c ∧
      c.lastAbout? ⟨"a"⟩ = some (.availability ⟨"a"⟩ true) ∧
      c.monitor.statusOf? ⟨"a"⟩ = some (.unrecognized "paused") ∧
      c.IsSeenSince ⟨"a"⟩ (.unrecognized "paused") ∧
      c.monitor.statusOf? ⟨"b"⟩ = some .busy ∧
      c.lastAbout? ⟨"b"⟩ = some (.availability ⟨"b"⟩ false) ∧
      c.monitor.statusOf? ⟨"c"⟩ = none ∧ c.lastAbout? ⟨"c"⟩ = some (.offline ⟨"c"⟩) := by
  have h : Reachable "brewery" _ := .start
  replace h := h.step (.begin (.registration .registered))
  replace h := h.step (.resume [] [] rfl (.ok ⟨0⟩ : Except Refusal RoomRef))
  replace h := h.step (.resume [] [] rfl (⟨1⟩ : ListenerId))
  replace h := h.step (.begin (.notice 1 ⟨.joined, ⟨⟨"c"⟩, some (.announcing .idle)⟩⟩))
  replace h := h.step (.begin (.notice 1 ⟨.joined, ⟨⟨"a"⟩, some (.announcing .idle)⟩⟩))
  replace h := h.step (.begin (.notice 1 ⟨.joined, ⟨⟨"b"⟩, some (.announcing .busy)⟩⟩))
  replace h := h.step (.resume [] [] rfl (.ok () : Except Refusal Unit))
  replace h := h.step (.begin (.notice 1 ⟨.left, ⟨⟨"c"⟩, none⟩⟩))
  replace h := h.step
    (.begin (.notice 1 ⟨.changed, ⟨⟨"a"⟩, some (.announcing (.unrecognized "paused"))⟩⟩))
  obtain ⟨-, -, -, havailable⟩ := h.last_announcement_agrees ⟨"a"⟩
  obtain ⟨-, hbusy, -, -⟩ := h.last_announcement_agrees ⟨"b"⟩
  rcases havailable true rfl with hidle | ⟨raw, hraw, hsince⟩
  · cases hidle
  · cases hraw
    exact ⟨_, h, rfl, rfl, hsince, rfl, hbusy rfl, rfl, rfl⟩

end Course

end WorkerRoster
