import WorkerRoster.Proofs.Course.Knowledge
import WorkerRoster.Proofs.Site.Outcome

/-!
# Whose Listener Is in a Room

A monitor that listens in a room has a seat there, and never loses sight of it: it is in the room
with this seat, or one of its calls has the seat on its hands, to be let in with it or to give it
up. So a monitor that is away, and has no call under way, listens in no room.

## Main statements

- `Site.IsSeated.move`: no move makes a monitor lose sight of a seat
- `Site.Reachable.isSeated`: no monitor ever does
-/

set_option autoImplicit false

namespace WorkerRoster

/-- The seats on the hands of a call of a monitor. -/
def Frame.hands (index : Nat) : Frame → List Seat
  | .asking other p => if other = index then p.removed?.toList ++ p.held?.toList else []
  | .replying other p r =>
    if other = index then (Cue.reply p r).added?.toList ++ p.held?.toList else []
  | _ => []

namespace Site

/-- The seats that a monitor knows of. -/
def hands (s : Site) (index : Nat) : List Seat :=
  s.stack.flatMap (Frame.hands index) ++ (s.watchers[index]?.bind (·.phase.seat?)).toList

/-- A monitor has seen to it that it knows of all its listeners in rooms. -/
structure IsSeated (s : Site) (index : Nat) : Prop where
  there : index < s.watchers.length
  knows : ∀ {room : RoomRef} {id : ListenerId} {generation : UInt64},
    (id, .monitor index generation) ∈ s.guests room → ⟨room, id⟩ ∈ s.hands index

variable {s : Site} {index other : Nat}

/-! ## Frames -/

theorem hands_of_not_isOf {f : Frame} (h : Frame.isOf index f = false) : f.hands index = [] := by
  cases f with
  | asking other p | replying other p r =>
    have hother : other ≠ index := by simpa [Frame.isOf] using h
    simp [Frame.hands, hother]
  | telling _ _ | delivering _ _ | introducing _ _ | outside => rfl

theorem hands_of_not_isTask {f : Frame} (h : f.isTask = false) : f.hands index = [] := by
  apply hands_of_not_isOf
  cases f <;> first | rfl | cases h

theorem hands_of_ne {f : Frame} (h : Frame.isOf other f) (hne : other ≠ index) :
    f.hands index = [] := by
  apply hands_of_not_isOf
  cases f <;> simp_all [Frame.isOf]

theorem Pending.removed?_of_isPrompt {p : Pending} (h : p.isPrompt) : p.removed? = none := by
  cases p <;> first | rfl | simp [Pending.isPrompt] at h

/-- A turn takes over what the frame that it takes the place of has on its hands. -/
theorem Cued.hands {m : Move} {gone : Option Frame} {cue : Cue} {under : List Frame}
    (h : Cued index m gone cue under) {seat : Seat}
    (hseat : seat ∈ gone.toList.flatMap (Frame.hands index)) :
    seat ∈ cue.added?.toList ++ (cue.answered.bind Pending.held?).toList := by
  cases h with
  | called _ | told _ _ | notified _ _ _ => simp [Frame.hands] at hseat
  | replied p r => simpa [Frame.hands, Cue.answered] using hseat
  | answered r prompt =>
    refine List.mem_append_right _ ?_
    simpa [Frame.hands, Pending.removed?_of_isPrompt prompt, Cue.answered] using hseat

theorem Cued.hands_of_ne {m : Move} {gone : Option Frame} {cue : Cue} {under : List Frame}
    (h : Cued other m gone cue under) (hne : other ≠ index) :
    gone.toList.flatMap (Frame.hands index) = [] := by
  cases h with
  | called _ | told _ _ | notified _ _ _ => rfl
  | replied _ _ | answered _ _ => simp [Frame.hands, hne]

/-- What a monitor or the call that took a turn had on its hands, one of them has afterwards. -/
theorem mem_hands_turn (m : Monitor) (cue : Cue) (index : Nat) (seat : Seat)
    (h : seat ∈ cue.added?.toList ++ (cue.answered.bind Pending.held?).toList ∨
      m.phase.seat? = some seat) :
    seat ∈ ((m.turn cue).pending.map (Frame.asking index)).toList.flatMap (Frame.hands index) ∨
      (m.turn cue).monitor.phase.seat? = some seat := by
  obtain ⟨hperm, -⟩ := m.seats_turn cue
  have hmem : seat ∈ ((m.turn cue).pending.bind Pending.removed?).toList ++
      ((m.turn cue).pending.bind Pending.held?).toList ++
      (m.turn cue).monitor.phase.seat?.toList := by
    rw [← hperm.mem_iff, List.mem_append, Option.mem_toList]
    exact h
  rw [List.mem_append, Option.mem_toList] at hmem
  refine hmem.imp_left fun hmem => ?_
  cases hp : (m.turn cue).pending with
  | none => simp [hp] at hmem
  | some p => simpa [hp, Frame.hands] using hmem

/-! ## Moves -/

/-- No move makes a monitor lose sight of a seat. -/
theorem IsSeated.move (h : s.IsSeated index) (m : Move) : (s.move m).IsSeated index := by
  refine ⟨s.length_watchers_move m ▸ h.there, fun {room id generation} hx => ?_⟩
  obtain ⟨gone, new, rest, hold, hnew, houtcome⟩ := s.becomes_move m
  generalize s.move m = s' at hx hnew houtcome
  -- what the monitor knew of, and what it has to know of now
  have hknown : (id, RoomListener.monitor index generation) ∈ s.guests room →
      (⟨room, id⟩ ∈ gone.toList.flatMap (Frame.hands index) ∨
        ⟨room, id⟩ ∈ rest.flatMap (Frame.hands index)) ∨
      s.watchers[index]?.bind (·.phase.seat?) = some ⟨room, id⟩ := by
    intro hx
    have hknows := h.knows hx
    rwa [hands, hold, List.flatMap_append, List.mem_append, List.mem_append,
      Option.mem_toList] at hknows
  rw [hands, hnew, List.flatMap_append, List.mem_append, List.mem_append, Option.mem_toList]
  cases houtcome with
  | apart watchers noMore gone_isTask =>
    have hgone : gone.toList.flatMap (Frame.hands index) = [] := by
      cases gone with
      | none => rfl
      | some f => simp [hands_of_not_isTask (gone_isTask f rfl)]
    rw [watchers]
    refine (hknown (noMore.inside hx)).imp_left fun hseat => .inr ?_
    simpa [hgone] using hseat
  | @lost owner f _ watchers noMore isOf prompt astray =>
    replace hx := noMore.inside hx
    have hlost : ⟨room, id⟩ ∉ f.hands index := by
      intro hseat
      by_cases howner : owner = index
      · subst howner
        rcases astray with hnone | ⟨_, seat, rfl, hempty⟩
        · exact absurd h.there (Nat.not_lt.2 (List.getElem?_eq_none_iff.1 hnone))
        · -- the room is not there, so nobody listens in it
          have hroom : (⟨room, id⟩ : Seat) = seat := by
            simpa [Frame.hands, Pending.removed?, Pending.held?] using hseat
          subst hroom
          simp [hempty] at hx
      · simp [hands_of_ne isOf howner] at hseat
    rw [watchers]
    refine (hknown hx).imp_left fun hseat => .inr ?_
    simpa [hlost] using hseat
  | @turn _ _ turner monitor cue under _ cued is watchers noMore =>
    have hseat := hknown (noMore.inside hx)
    rw [watchers]
    by_cases hturner : turner = index
    · subst hturner
      rw [is] at hseat
      rw [List.getElem?_set_self h.there, List.flatMap_append, List.mem_append]
      have hturn := mem_hands_turn monitor cue turner ⟨room, id⟩
      -- the turn takes over what was on its hands, and the monitor's own seat
      rcases hseat with (hgone | hrest) | hpresent
      · exact (hturn (.inl (cued.hands hgone))).imp_left fun hnew => .inl (.inl hnew)
      · exact .inl (.inr hrest)
      · exact (hturn (.inr hpresent)).imp_left fun hnew => .inl (.inl hnew)
    · -- another monitor's turn is nothing to this one
      rw [List.getElem?_set_ne hturner]
      refine hseat.imp_left fun hseat => .inr ?_
      simpa [cued.hands_of_ne hturner] using hseat
  | @answered asker p r front _ watchers _ outside inside =>
    rw [watchers, List.flatMap_append, List.mem_append]
    rcases inside hx with ⟨hx, hne⟩ | ⟨rfl, hadded⟩
    · refine (hknown hx).imp_left fun hseat => hseat.imp_left fun hseat => .inr ?_
      -- it was not the one that was removed
      by_cases hasker : asker = index
      · have hne : ⟨room, id⟩ ∉ p.removed? := hne
        simp only [Option.toList_some, List.flatMap_singleton, Frame.hands, hasker, if_true,
          List.mem_append, Option.mem_toList] at hseat ⊢
        exact .inr (hseat.resolve_left hne)
      · simp [Frame.hands, hasker] at hseat
    · -- the listener is new, and its number is on the way to the call
      left; left; right
      simp [Frame.hands, hadded]

/-! ## Throughout -/

/-- The sites that can come about from one where nothing has happened yet. -/
inductive Reachable : Site → Prop where
  | start (isUp : Bool) (names : List String) :
    Reachable { connection := { isUp }, monitors := names.map fun room => { monitor := { room } } }
  | move {s : Site} (reachable : Reachable s) (m : Move) : Reachable (s.move m)

/-- No monitor ever loses sight of a seat. -/
theorem Reachable.isSeated (h : s.Reachable) (hindex : index < s.watchers.length) :
    s.IsSeated index := by
  induction h with
  | start isUp names => exact ⟨hindex, fun hx => by simp [guests] at hx⟩
  | @move s _ m ih => exact (ih (s.length_watchers_move m ▸ hindex)).move m

/-- What is true of a new monitor and kept by every turn is true of all monitors throughout. -/
theorem Reachable.keeps {P : Monitor → Prop} (h : s.Reachable) (new : ∀ room, P { room })
    (turn : ∀ m cue, P m → P (Monitor.turn m cue).monitor) : ∀ monitor ∈ s.watchers, P monitor := by
  induction h with
  | start isUp names => simp [watchers, new]
  | move _ m ih => exact keeps_watchers turn ih m

end Site

end WorkerRoster
