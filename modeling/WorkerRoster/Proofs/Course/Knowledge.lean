import WorkerRoster.Proofs.Course

/-!
# Who Is Known in the Course of Events

Whatever the connection and the room do, a monitor that is away knows nobody, knows no worker twice,
and knows no worker that counts as gone. The reason is in the turns: a monitor forgets everybody in
the very turn in which it goes away, and a notice counts only while it is not away.

## Main statement

- `Course.Reachable.roster_consistent`: the three facts, throughout every course of events
-/

set_option autoImplicit false

namespace WorkerRoster

/-- What is true of the workers that a monitor knows. -/
structure Monitor.IsConsistent (m : Monitor) : Prop where
  /-- A monitor that is away knows nobody. -/
  away : m.phase = .away → m.roster = .empty
  /-- It knows nobody twice. -/
  distinct : m.roster.IsDistinct
  /-- It knows nobody that counts as gone. -/
  definite : m.roster.IsDefinite

namespace Monitor

theorem isConsistent_new (room : String) : IsConsistent { room } :=
  ⟨fun _ => rfl, Roster.isDistinct_empty, Roster.isDefinite_empty⟩

/-- A monitor that is about to enter or in the room may know anybody, once each and not as gone. -/
theorem IsConsistent.of_not_away {m : Monitor} (h : m.phase ≠ .away)
    (distinct : m.roster.IsDistinct) (definite : m.roster.IsDefinite) : m.IsConsistent :=
  ⟨fun haway => absurd haway h, distinct, definite⟩

/-- A turn keeps what is true of the workers that are known. -/
theorem IsConsistent.turn {m : Monitor} (h : m.IsConsistent) (cue : Cue) :
    (m.turn cue).monitor.IsConsistent := by
  have htakes := m.takes_turn cue
  generalize m.turn cue = t at htakes
  cases htakes with
  | aside _ _ phase _ roster =>
    refine ⟨fun haway => ?_, roster ▸ h.distinct, roster ▸ h.definite⟩
    rw [roster]
    exact h.away (phase ▸ haway)
  | @sees _ n status _ heeds _ monitor =>
    rw [monitor]
    -- a notice that is heeded finds the monitor not away
    obtain ⟨-, hnot⟩ := (m.heeds_iff _).1 heeds
    exact .of_not_away hnot (h.distinct.track n.occupant.id status)
      (h.definite.track n.occupant.id status)
  | begins _ _ monitor =>
    rw [monitor]
    -- it was away, so it knows nobody, but that is not needed any more
    exact .of_not_away (by simp) h.distinct h.definite
  | arrives _ monitor =>
    rw [monitor]
    exact .of_not_away (by simp) h.distinct h.definite
  | fails _ _ monitor =>
    rw [monitor]
    exact ⟨fun _ => rfl, Roster.isDistinct_empty, Roster.isDefinite_empty⟩
  | stops _ _ _ roster =>
    refine ⟨fun _ => roster, ?_, ?_⟩ <;> rw [roster]
    · exact Roster.isDistinct_empty
    · exact Roster.isDefinite_empty
  | obtains monitor | listens monitor | overtaken _ monitor | refused monitor | forgets _ _ monitor
  | releases monitor | leaves monitor =>
    rw [monitor]
    exact h

end Monitor

namespace Course

/-- Throughout every course of events a monitor that is away knows nobody, no worker is known twice,
    and none is known as gone. -/
theorem Reachable.roster_consistent {room : String} {c : Course} (h : Reachable room c) :
    (c.monitor.phase = .away → c.monitor.roster = .empty) ∧
      (c.monitor.roster.workers.map (·.id)).Nodup ∧
      ∀ w ∈ c.monitor.roster.workers, w.status ≠ .undefined := by
  have hconsistent : c.monitor.IsConsistent :=
    h.keeps (Monitor.isConsistent_new room) fun _ cue hm => hm.turn cue
  exact ⟨hconsistent.away, hconsistent.distinct, hconsistent.definite⟩

/-- A monitor that loses the registration while it waits to be let in, and has met a worker by then,
    knows nobody, also when it hears of another worker too late. -/
theorem Reachable.roster_consistent_interrupted :
    ∃ c, Reachable "brewery" c ∧ c.waiting.length = 1 ∧ c.history.length = 8 ∧
      c.monitor.phase = .away ∧ c.monitor.roster = .empty ∧
      (c.monitor.roster.workers.map (·.id)).Nodup ∧
      ∀ w ∈ c.monitor.roster.workers, w.status ≠ .undefined := by
  have h : Reachable "brewery" _ := .start
  replace h := h.step (.begin .init)
  replace h := h.step (.resume [] [] rfl (⟨1⟩ : ListenerId))
  replace h := h.step (.resume [] [] rfl true)
  replace h := h.step (.resume [] [] rfl (.ok ⟨0⟩ : Except Refusal RoomRef))
  replace h := h.step (.resume [] [] rfl (⟨2⟩ : ListenerId))
  replace h := h.step (.begin (.notice 1 ⟨.joined, ⟨⟨"a"⟩, some (.announcing .idle)⟩⟩))
  replace h := h.step (.begin (.registration .unregistered))
  replace h := h.step (.begin (.notice 1 ⟨.joined, ⟨⟨"b"⟩, some (.announcing .busy)⟩⟩))
  obtain ⟨away, distinct, definite⟩ := h.roster_consistent
  exact ⟨_, h, rfl, rfl, rfl, away rfl, distinct, definite⟩

end Course

end WorkerRoster
