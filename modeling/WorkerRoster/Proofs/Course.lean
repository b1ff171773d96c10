import WorkerRoster.Proofs.Lasting
import WorkerRoster.Proofs.Turn

/-!
# Courses of Events

The connection and the rooms that a monitor uses may do as they like: between a question and its
reply any call may begin, and any other call that waits may get its reply. A course of events is a
monitor with the calls that wait, and everything that happened to it so far. What holds of all
courses that can be reached holds whatever the connection and the rooms do, in whatever order and
nesting.

Calls are numbered in the order in which they begin, so that it can be said of a turn which call it
belongs to. The turns of one call are its thread: each goes on with the question that the one before
ended with.

## Main statements

- `Course.Reachable.keeps`: what every turn keeps is kept throughout
- `Course.Reachable.exists_before`: what was there before a turn could be reached, too
- `Course.Reachable.exists_thread`: the turns of a call are a thread
-/

set_option autoImplicit false

namespace WorkerRoster

/-- An episode: a turn as it was taken. -/
structure Episode where
  /-- The number of the call. -/
  call : Nat
  /-- The monitor before the turn. -/
  monitor : Monitor
  cue : Cue

namespace Episode

/-- The turn. -/
def turn (e : Episode) : Turn :=
  e.monitor.turn e.cue

/-- What was asked at the end of the turn. -/
def asks (e : Episode) : Option Request :=
  e.turn.pending.map (·.request e.monitor.room)

theorem takes (e : Episode) : e.monitor.Takes e.cue e.turn :=
  e.monitor.takes_turn e.cue

end Episode

/-- A call that waits for a reply. -/
structure Waiting where
  /-- The number of the call. -/
  call : Nat
  pending : Pending

/-- A course of events. -/
structure Course where
  monitor : Monitor
  /-- The calls that wait for a reply, in the order in which they are nested. -/
  waiting : List Waiting := []
  /-- How many calls have begun. -/
  calls : Nat := 0
  /-- What happened, in order. -/
  history : List Episode := []

namespace Course

/-! ## Going on -/

/-- Take a turn of a call, which waits between others then if it is not at its end. -/
def advance (c : Course) (call : Nat) (cue : Cue) (front back : List Waiting) : Course :=
  let e : Episode := ⟨call, c.monitor, cue⟩
  { monitor := e.turn.monitor
    waiting := front ++ (e.turn.pending.map (Waiting.mk call)).toList ++ back
    calls := max c.calls (call + 1)
    history := c.history ++ [e] }

/-- Begin a call. -/
def begin (c : Course) (x : Call) : Course :=
  c.advance c.calls (.call x) [] c.waiting

/-- What can happen next. -/
inductive Step (c : Course) : Course → Prop where
  /-- A call begins. -/
  | begin (x : Call) : Step c (c.begin x)
  /-- A call that waits gets its reply. -/
  | resume (front back : List Waiting) {w : Waiting} (waits : c.waiting = front ++ w :: back)
      (r : w.pending.Reply) : Step c (c.advance w.call (.reply w.pending r) front back)

/-- The courses that can be reached from a new monitor. -/
inductive Reachable (room : String) : Course → Prop where
  | start : Reachable room { monitor := { room } }
  | step {c c' : Course} (reachable : Reachable room c) (step : c.Step c') : Reachable room c'

variable {room : String} {c c' : Course}

/-- A step is a turn of a call, which comes from among those who wait, if it waited, and goes back
    to the same place, if it waits again. -/
theorem Step.exists_advance (h : c.Step c') :
    ∃ call cue front back, c' = c.advance call cue front back ∧
      c.waiting = front ++ (cue.answered.map (Waiting.mk call)).toList ++ back := by
  cases h with
  | begin x => exact ⟨c.calls, .call x, [], c.waiting, rfl, rfl⟩
  | @resume front back w waits r =>
    exact ⟨w.call, .reply w.pending r, front, back, rfl, by simpa [Cue.answered] using waits⟩

/-- What a call keeps while it waits, if it waits. -/
theorem filterMap_waiting {α : Type} (keep : Pending → Option α) (call : Nat) (p : Option Pending) :
    (p.map (Waiting.mk call)).toList.filterMap (keep ·.pending) = (p.bind keep).toList := by
  cases p with
  | none => rfl
  | some p => cases hp : keep p <;> simp [hp]

/-- What is true of a new monitor and kept by every turn is true throughout. -/
theorem Reachable.keeps {P : Monitor → Prop} (h : Reachable room c) (new : P { room })
    (turn : ∀ m cue, P m → P (Monitor.turn m cue).monitor) : P c.monitor := by
  induction h with
  | start => exact new
  | step _ hstep ih =>
    obtain ⟨call, cue, front, back, rfl, -⟩ := hstep.exists_advance
    exact turn _ cue ih

/-- What was there before a turn could be reached, too, and the call that took the turn waited there
    for the reply, if it had a reply. -/
theorem Reachable.exists_before (h : Reachable room c) {before after : List Episode} {e : Episode}
    (hsplit : c.history = before ++ e :: after) :
    ∃ c₀, Reachable room c₀ ∧ c₀.history = before ∧ c₀.monitor = e.monitor ∧
      ∀ p, e.cue.answered = some p → ⟨e.call, p⟩ ∈ c₀.waiting := by
  induction h generalizing after with
  | start => simp at hsplit
  | @step c c' hreachable hstep ih =>
    obtain ⟨call, cue, front, back, rfl, hwaiting⟩ := hstep.exists_advance
    -- the turn is the last one, or there was one more since
    rcases split_concat hsplit with ⟨-, hhistory, rfl⟩ | ⟨_, -, hhistory⟩
    · refine ⟨c, hreachable, hhistory, rfl, fun p hp => ?_⟩
      replace hp : cue.answered = some p := hp
      rw [hwaiting, hp]
      simp
    · exact ih hhistory

/-! ## Threads -/

/-- The turns of a call, in order. -/
def thread (c : Course) (call : Nat) : List Episode :=
  c.history.filter (·.call = call)

theorem mem_thread {call : Nat} {e : Episode} :
    e ∈ c.thread call ↔ e ∈ c.history ∧ e.call = call := by
  simp [thread]

/-- Turns that go on with each other, from the beginning of a call to a question or to its end. -/
inductive Thread : List Episode → Option Pending → Prop where
  | begins {e : Episode} {x : Call} (cue : e.cue = .call x) : Thread [e] e.turn.pending
  | goesOn {es : List Episode} {p : Pending} {e : Episode} {r : p.Reply}
      (thread : Thread es (some p)) (cue : e.cue = .reply p r) :
      Thread (es ++ [e]) e.turn.pending

/-- A turn goes to the thread of its call. -/
theorem thread_advance (c : Course) (call other : Nat) (cue : Cue) (front back : List Waiting) :
    (c.advance call cue front back).thread other =
      c.thread other ++ if call = other then [⟨call, c.monitor, cue⟩] else [] := by
  unfold thread advance
  dsimp only
  rw [List.filter_append]
  by_cases h : call = other <;> simp [h]

/-- The calls of a course are told apart by their numbers, and their turns are threads. -/
structure IsThreaded (c : Course) : Prop where
  /-- A call that waits has begun. -/
  begun : ∀ w ∈ c.waiting, w.call < c.calls
  /-- No call waits twice. -/
  once : (c.waiting.map (·.call)).Nodup
  /-- A call that waits has come to its question. -/
  waits : ∀ w ∈ c.waiting, Thread (c.thread w.call) (some w.pending)
  /-- A call that does not wait has come to its end. -/
  ended : ∀ call < c.calls, call ∉ c.waiting.map (·.call) → Thread (c.thread call) none
  /-- A call that has not begun has taken no turn. -/
  fresh : ∀ call, c.calls ≤ call → c.thread call = []

/-- Who waits after a turn: the others, and the call that took it if it asked something. -/
theorem mem_waiting_advance (c : Course) (call : Nat) (cue : Cue) (front back : List Waiting)
    (w : Waiting) :
    w ∈ (c.advance call cue front back).waiting ↔
      w ∈ front ++ back ∨ w.call = call ∧ (c.monitor.turn cue).pending = some w.pending := by
  obtain ⟨number, p⟩ := w
  have hnew : ∀ o : Option Pending,
      ⟨number, p⟩ ∈ (o.map (Waiting.mk call)).toList ↔ number = call ∧ o = some p := by
    intro o
    cases o <;> simp [eq_comm]
  have hnew := hnew (c.monitor.turn cue).pending
  simp only [advance, Episode.turn, List.mem_append, hnew]
  exact or_right_comm

/-- A turn keeps the calls apart. -/
theorem IsThreaded.advance (h : c.IsThreaded) {call : Nat} {cue : Cue} {front back : List Waiting}
    (others : (front ++ back).Sublist c.waiting) (apart : call ∉ (front ++ back).map (·.call))
    (all : ∀ w ∈ c.waiting, w ∈ front ++ back ∨ w.call = call) (known : call ≤ c.calls)
    (thread : Thread (c.thread call ++ [⟨call, c.monitor, cue⟩]) (c.monitor.turn cue).pending) :
    (c.advance call cue front back).IsThreaded := by
  have hself : (c.advance call cue front back).thread call =
      c.thread call ++ [⟨call, c.monitor, cue⟩] := by
    rw [thread_advance, if_pos rfl]
  have hother : ∀ other, other ≠ call →
      (c.advance call cue front back).thread other = c.thread other := by
    intro other hne
    rw [thread_advance, if_neg (Ne.symm hne), List.append_nil]
  have hmem := c.mem_waiting_advance call cue front back
  refine ⟨?begun, ?once, ?waits, ?ended, ?fresh⟩
  case begun =>
    intro w hw
    show w.call < max c.calls (call + 1)
    rcases (hmem w).1 hw with hw | ⟨hw, -⟩
    · have := h.begun w (others.subset hw)
      omega
    · omega
  case once =>
    -- the call that took the turn is not among the others
    have hothers : ((front ++ back).map (·.call)).Nodup := (others.map _).nodup h.once
    rw [List.map_append] at hothers apart
    show ((front ++ _ ++ back).map (·.call)).Nodup
    cases (Episode.turn ⟨call, c.monitor, cue⟩).pending with
    | none => simpa using hothers
    | some p =>
      rw [List.map_append, List.map_append]
      refine List.Perm.nodup (l := call :: (front.map (·.call) ++ back.map (·.call))) ?_
        (List.nodup_cons.2 ⟨apart, hothers⟩)
      simpa using List.perm_middle.symm
  case waits =>
    intro w hw
    rcases (hmem w).1 hw with hw | ⟨hcall, hpending⟩
    · -- another call, whose thread is as it was
      have hne : w.call ≠ call := fun hcall => apart (hcall ▸ List.mem_map_of_mem hw)
      rw [hother _ hne]
      exact h.waits w (others.subset hw)
    · rw [hcall, hself, ← hpending]
      exact thread
  case ended =>
    intro other hlt hnot
    by_cases hne : other = call
    · subst hne
      -- it asked nothing, or it would wait
      have hnone : (c.monitor.turn cue).pending = none := by
        cases hp : (c.monitor.turn cue).pending with
        | none => rfl
        | some p =>
          exact absurd (List.mem_map_of_mem ((hmem ⟨other, p⟩).2 (.inr ⟨rfl, hp⟩))) hnot
      rw [hself, ← hnone]
      exact thread
    · rw [hother other hne]
      replace hlt : other < max c.calls (call + 1) := hlt
      refine h.ended other (by omega) fun hwaits => hnot ?_
      obtain ⟨w, hw, rfl⟩ := List.mem_map.1 hwaits
      exact List.mem_map_of_mem ((hmem w).2 (.inl ((all w hw).resolve_right hne)))
  case fresh =>
    intro other hle
    replace hle : max c.calls (call + 1) ≤ other := hle
    rw [hother other (by omega)]
    exact h.fresh other (by omega)

/-- A step keeps the calls apart. -/
theorem IsThreaded.step (h : c.IsThreaded) (hstep : c.Step c') : c'.IsThreaded := by
  cases hstep with
  | begin x =>
    refine h.advance (List.Sublist.refl _) ?_ (fun w hw => .inl hw) (Nat.le_refl _) ?_
    · intro hmem
      obtain ⟨w, hw, hcall⟩ := List.mem_map.1 hmem
      have := h.begun w hw
      omega
    · rw [h.fresh c.calls (Nat.le_refl _)]
      exact .begins (e := ⟨c.calls, c.monitor, .call x⟩) rfl
  | @resume front back w waits r =>
    have hw : w ∈ c.waiting := by simp [waits]
    -- no call waits twice, so the one that goes on is not among the others
    have honce := h.once
    rw [waits, List.map_append, List.map_cons] at honce
    refine h.advance ?_ ?_ ?_ (Nat.le_of_lt (h.begun w hw)) ?_
    · simp [waits]
    · rw [List.map_append]
      exact (List.nodup_cons.1 (List.perm_middle.nodup honce)).1
    · intro other hother
      rw [waits] at hother
      grind
    · exact .goesOn (e := ⟨w.call, c.monitor, .reply w.pending r⟩) (h.waits w hw) rfl

/-- Throughout, calls are told apart by their numbers, and their turns are threads. -/
theorem Reachable.isThreaded (h : Reachable room c) : c.IsThreaded := by
  induction h with
  | start => exact ⟨by simp, by simp, by simp, by simp, fun _ _ => rfl⟩
  | step _ hstep ih => exact ih.step hstep

/-- The turns of a call are a thread. -/
theorem Reachable.exists_thread (h : Reachable room c) {e : Episode} (he : e ∈ c.history) :
    ∃ p, Thread (c.thread e.call) p := by
  have hthreaded := h.isThreaded
  have hmem : e ∈ c.thread e.call := mem_thread.2 ⟨he, rfl⟩
  have hlt : e.call < c.calls := by
    refine Nat.lt_of_not_le fun hle => ?_
    rw [hthreaded.fresh e.call hle] at hmem
    simp at hmem
  -- its call has begun, and waits or is at its end
  by_cases hwaits : e.call ∈ c.waiting.map (·.call)
  · obtain ⟨w, hw, hcall⟩ := List.mem_map.1 hwaits
    exact ⟨_, hcall ▸ hthreaded.waits w hw⟩
  · exact ⟨none, hthreaded.ended _ hlt hwaits⟩

end Course

end WorkerRoster
