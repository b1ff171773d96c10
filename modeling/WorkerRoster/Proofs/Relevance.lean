import WorkerRoster.Monitor
import WorkerRoster.Proofs.Roster.Independence

/-!
# What Is Not Heard

Most of what members of a room show is none of a monitor's business: notices without any status,
extensions of other names, a second status behind the first one, attributes besides the status, and
whatever a member shows that is gone. A monitor in the room takes no notice of it: however much of
it there is, and wherever it comes, the monitor knows the same workers in the same order and the bus
is offered the same.

What a notice tells is at most one sighting (`Notice.sighting?`). The sightings of a history of
notices are the same when noise is added, and they decide everything.

## Main statements

- `Presence.Varies.status?_eq`: what does not matter in a presence does not change its status
- `Notice.Noisier.sightings_eq`: noise adds no sighting and hides none
- `Monitor.hearAll_eq`: a monitor in the room hears sightings
- `Monitor.noise_unheard`: noise makes no difference
-/

set_option autoImplicit false

namespace WorkerRoster

/-! ## Presences -/

namespace Presence

/-- A change in a presence that does not matter. -/
inductive Varies : Presence → Presence → Prop where
  /-- An extension of another name is put in anywhere. -/
  | unrelated (front back : List Extension) {e : Extension}
      (other : e.element ≠ statusElement ∨ e.space ≠ statusSpace) :
      Varies ⟨front ++ back⟩ ⟨front ++ e :: back⟩
  /-- Any extension is put in somewhere behind one that announces a status. -/
  | behind (front middle back : List Extension) {status : Extension}
      (element : status.element = statusElement) (space : status.space = statusSpace)
      (e : Extension) :
      Varies ⟨front ++ status :: middle ++ back⟩ ⟨front ++ status :: middle ++ e :: back⟩
  /-- Attributes of an extension other than the status become others. -/
  | attributes (front back : List Extension) (e : Extension) {others : List (String × String)}
      (status : others.lookup statusAttribute = e.attributes.lookup statusAttribute) :
      Varies ⟨front ++ e :: back⟩ ⟨front ++ { e with attributes := others } :: back⟩

/-- What does not matter in a presence does not change the status that it announces. -/
theorem Varies.status?_eq {p p' : Presence} (h : p.Varies p') : p'.status? = p.status? := by
  cases h with
  | @unrelated front back e other =>
    have hnamed : e.isNamed statusElement statusSpace = false := by
      simpa [Extension.isNamed, imp_iff_not_or] using other
    simp [status?, extension?, List.find?_append, hnamed]
  | @behind front middle back s element space e =>
    -- the search has ended before
    have hnamed : s.isNamed statusElement statusSpace = true := by
      simp [Extension.isNamed, element, space]
    simp [status?, extension?, List.find?_append, hnamed]
  | @attributes front back e others status =>
    have hnamed : ({ e with attributes := others } : Extension).isNamed statusElement statusSpace =
        e.isNamed statusElement statusSpace := rfl
    simp only [status?, extension?, List.find?_append, List.find?_cons, hnamed]
    cases front.find? (·.isNamed statusElement statusSpace) with
    | some _ => rfl
    | none => cases e.isNamed statusElement statusSpace <;> simp [Extension.attribute?, status]

end Presence

/-! ## Notices -/

namespace Notice

/-- What a notice tells, if it tells anything. -/
def sighting? (n : Notice) : Option Sighting :=
  n.status?.map (.seen n.occupant.id)

/-- Noise that is added to a history of notices, or a part of it that becomes other noise. -/
inductive Noisier : List Notice → List Notice → Prop where
  /-- A notice about a member who is there, and shows nothing or no status, is put in anywhere. -/
  | inserted (front back : List Notice) {n : Notice} (there : n.kind.isDeparture = false)
      (mute : ∀ p, n.occupant.presence = some p → p.extension? statusElement statusSpace = none) :
      Noisier (front ++ back) (front ++ n :: back)
  /-- What a member shows becomes something else in what does not matter. -/
  | shown (front back : List Notice) (kind : NoticeKind) (id : WorkerId) {p p' : Presence}
      (varies : p.Varies p') :
      Noisier (front ++ ⟨kind, ⟨id, some p⟩⟩ :: back) (front ++ ⟨kind, ⟨id, some p'⟩⟩ :: back)
  /-- What a member shows that is gone becomes anything else. -/
  | gone (front back : List Notice) {kind : NoticeKind} (departure : kind.isDeparture = true)
      (id : WorkerId) (presence presence' : Option Presence) :
      Noisier (front ++ ⟨kind, ⟨id, presence⟩⟩ :: back) (front ++ ⟨kind, ⟨id, presence'⟩⟩ :: back)

/-- Noise adds no sighting and hides none. -/
theorem Noisier.sightings_eq {ns ns' : List Notice} (h : Noisier ns ns') :
    ns'.filterMap sighting? = ns.filterMap sighting? := by
  cases h with
  | @inserted front back n there mute =>
    have hnone : n.sighting? = none := by
      cases hshows : n.occupant.presence with
      | none => simp [sighting?, status?, there, hshows]
      | some p => simp [sighting?, status?, there, hshows, Presence.status?, mute p hshows]
    simp [hnone]
  | @shown front back kind id p p' varies =>
    have hsame : sighting? ⟨kind, ⟨id, some p'⟩⟩ = sighting? ⟨kind, ⟨id, some p⟩⟩ := by
      simp [sighting?, status?, varies.status?_eq]
    simp [List.filterMap_cons, hsame]
  | @gone front back kind departure id presence presence' =>
    have hsame : sighting? ⟨kind, ⟨id, presence'⟩⟩ = sighting? ⟨kind, ⟨id, presence⟩⟩ := by
      simp [sighting?, status?, departure]
    simp [List.filterMap_cons, hsame]

/-- However much noise is added, the sightings are the same. -/
theorem sightings_of_noisier {ns ns' : List Notice} (h : Relation.ReflTransGen Noisier ns ns') :
    ns'.filterMap sighting? = ns.filterMap sighting? := by
  induction h with
  | refl => rfl
  | tail _ hstep ih => exact hstep.sightings_eq.trans ih

end Notice

/-! ## Hearing -/

namespace Monitor

/-- Hear notices one after the other, which came through the listener of an attempt: the monitor
    after them, and what is to be done outside. -/
def hearAll (m : Monitor) (generation : UInt64) : List Notice → Monitor × List Effect
  | [] => (m, [])
  | n :: rest =>
    let t := m.begin (.notice generation n)
    let (m, later) := t.monitor.hearAll generation rest
    (m, t.effects ++ later)

variable {m : Monitor} {generation : UInt64}

/-- A notice that counts is a sighting, if it tells anything. -/
theorem begin_notice (h : m.heeds generation = true) (n : Notice) :
    (m.begin (.notice generation n)).monitor =
        { m with roster := n.sighting?.toList.foldl Roster.meet m.roster } ∧
      announcements (m.begin (.notice generation n)).effects =
        announcements (m.roster.along Roster.effectsOf n.sighting?.toList) := by
  cases htells : n.status? with
  | none =>
    simp only [Monitor.begin, hear, Notice.sighting?, htells]
    exact ⟨rfl, rfl⟩
  | some status =>
    simp only [Monitor.begin, hear, Notice.sighting?, htells, h]
    refine ⟨rfl, ?_⟩
    simp [Roster.along, Roster.effectsOf, noticeEntry, announcements]

/-- Notices that count are sightings. -/
theorem hearAll_eq (h : m.heeds generation = true) (ns : List Notice) :
    (m.hearAll generation ns).1 =
        { m with roster := (ns.filterMap Notice.sighting?).foldl Roster.meet m.roster } ∧
      announcements (m.hearAll generation ns).2 =
        announcements (m.roster.along Roster.effectsOf (ns.filterMap Notice.sighting?)) := by
  induction ns generalizing m with
  | nil => exact ⟨rfl, rfl⟩
  | cons n rest ih =>
    have hsplit : (n :: rest).filterMap Notice.sighting? =
        n.sighting?.toList ++ rest.filterMap Notice.sighting? := by
      cases htells : n.sighting? <;> simp [htells]
    obtain ⟨hmonitor, hannounced⟩ := begin_notice h n
    -- the notice changes nothing but the roster, so the next one still counts
    have hheeds : (m.begin (.notice generation n)).monitor.heeds generation = true := by
      rw [hmonitor]
      exact h
    obtain ⟨hlast, hlater⟩ := ih hheeds
    refine ⟨?monitor, ?announced⟩
    case monitor =>
      show ((m.begin (.notice generation n)).monitor.hearAll generation rest).1 = _
      rw [hlast, hmonitor, hsplit, List.foldl_append]
    case announced =>
      show announcements ((m.begin (.notice generation n)).effects ++
        ((m.begin (.notice generation n)).monitor.hearAll generation rest).2) = _
      rw [announcements_append, hannounced, hlater, hmonitor, hsplit, Roster.along_append,
        announcements_append]

/-- Noise makes no difference. Two histories of notices come through the listener of the attempt
    that has let a monitor in, and one of them is the other one with noise added: the monitor is the
    same after both, and so knows the same workers in the same order, the bus is offered the same
    announcements and takes the same ones of them. What the monitor knows after the noise is what
    the sightings before the noise make of what it knew. -/
theorem noise_unheard {m : Monitor} {seat : Seat} (hpresent : m.phase = .present seat)
    {ns ns' : List Notice} (hnoise : Relation.ReflTransGen Notice.Noisier ns ns') {β : Type}
    (bus : Bus β) (state : β) :
    (m.hearAll m.generation ns').1 = (m.hearAll m.generation ns).1 ∧
      (bus.performAll state (m.hearAll m.generation ns').2).1 =
        (bus.performAll state (m.hearAll m.generation ns).2).1 ∧
      offers (bus.performAll state (m.hearAll m.generation ns').2).2 =
        offers (bus.performAll state (m.hearAll m.generation ns).2).2 ∧
      (m.hearAll m.generation ns').1.roster =
        (ns.filterMap Notice.sighting?).foldl Roster.meet m.roster := by
  have hheeds : m.heeds m.generation = true := by simp [heeds, hpresent, Phase.isAway]
  obtain ⟨hmonitor, hannounced⟩ := hearAll_eq hheeds ns
  obtain ⟨hmonitor', hannounced'⟩ := hearAll_eq hheeds ns'
  rw [Notice.sightings_of_noisier hnoise] at hmonitor' hannounced'
  obtain ⟨hstate, hoffers⟩ := bus.performAll_congr state (hannounced'.trans hannounced.symm)
  exact ⟨hmonitor'.trans hmonitor.symm, hstate, hoffers, congrArg Monitor.roster hmonitor'⟩

/-- A worker comes, shows that it is busy, and goes. Somebody without a status comes in between, the
    worker shows other things around its status, and something when it goes. -/
theorem noise_unheard_busy :
    let m : Monitor := { room := "brewery", phase := .present ⟨⟨0⟩, ⟨2⟩⟩, generation := 1 }
    let caps : Extension := { space := "http://jabber.org/protocol/caps", element := "c" }
    let ns : List Notice :=
      [⟨.joined, ⟨⟨"w"⟩, some (.announcing .idle)⟩⟩, ⟨.changed, ⟨⟨"w"⟩, some (.announcing .busy)⟩⟩,
        ⟨.left, ⟨⟨"w"⟩, none⟩⟩, ⟨.joined, ⟨⟨"v"⟩, some (.announcing .idle)⟩⟩]
    let ns' : List Notice :=
      [⟨.joined, ⟨⟨"w"⟩, some (.announcing .idle)⟩⟩, ⟨.joined, ⟨⟨"u"⟩, some ⟨[caps]⟩⟩⟩,
        ⟨.changed, ⟨⟨"w"⟩, some ⟨[caps, .announcing .busy, .announcing .idle]⟩⟩⟩,
        ⟨.left, ⟨⟨"w"⟩, some (.announcing .idle)⟩⟩, ⟨.joined, ⟨⟨"v"⟩, some (.announcing .idle)⟩⟩]
    (m.hearAll 1 ns').1 = (m.hearAll 1 ns).1 ∧
      (m.hearAll 1 ns).1.roster.workers = [⟨⟨"v"⟩, .idle⟩] ∧
      announcements (m.hearAll 1 ns').2 =
        [.availability ⟨"w"⟩ true, .availability ⟨"w"⟩ false, .offline ⟨"w"⟩,
          .availability ⟨"v"⟩ true] := by
  intro m caps ns ns'
  have hnoise : Relation.ReflTransGen Notice.Noisier ns ns' := by
    refine .head (.gone [_, _] [_] (by decide) ⟨"w"⟩ none (some (.announcing .idle))) ?_
    refine .head (.shown [_] [_, _] .changed ⟨"w"⟩
      (.behind [] [] [] rfl rfl (.announcing .idle))) ?_
    refine .head (.shown [_] [_, _] .changed ⟨"w"⟩
      (.unrelated [] [_, _] (e := caps) (by decide))) ?_
    exact .single (.inserted [_] [_, _, _] (by decide) (by decide))
  exact ⟨(noise_unheard rfl hnoise ⟨fun s _ => (s, .ok ())⟩ ()).1, by decide, by decide⟩

end Monitor

end WorkerRoster
