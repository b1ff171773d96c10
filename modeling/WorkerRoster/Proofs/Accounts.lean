import WorkerRoster.Proofs.Roster.Independence

/-!
# Nothing Is Lost Without a Word

A bus may take an announcement or refuse it, as it likes. Whatever it does, the journal tells:
before each announcement that is offered stands one entry that says what it is about, and behind
each one that is refused, before anything else is offered, stands one that says that it is lost.
Nothing is offered twice for that: what is offered is what the history calls for, one after the
other, whatever became of those before. Besides lost announcements only a status that means nothing
is an error.

Entries of both kinds are written in one place only, and none of the others looks like them. So the
deeds are in good order piece by piece, and what stands between two offers can be read off that.

## Main statements

- `Deed.inOrder_performAll`: what is done before a bus is in good order
- `Deed.InOrder.around_offer`: what stands before and behind an offer
- `Bus.nothing_lost_silently`: what a history comes to before any bus
-/

set_option autoImplicit false

namespace WorkerRoster

/-! ## Entries -/

namespace Entry

/-- Whether an entry says what is about to be announced. -/
def isNotice (e : Entry) : Bool :=
  e.message = "worker availability changed" || e.message = "worker went offline"

/-- Whether an entry says that an announcement is lost. -/
def isLoss (e : Entry) : Bool :=
  e.message = "dropping worker event"

end Entry

namespace Announcement

/-- What is written before an announcement is offered. -/
def notice : Announcement → Entry
  | .availability w available =>
    ⟨.info, "worker availability changed",
      [("worker", w.address), ("available", if available then "true" else "false")]⟩
  | .offline w => ⟨.info, "worker went offline", [("worker", w.address)]⟩

/-- What is written when an announcement is lost. -/
def loss (a : Announcement) (reason : Undelivered) : Entry :=
  ⟨.error, "dropping worker event",
    [("error", "event bus unavailable, dropped " ++ a.kind ++ " for " ++ a.worker.address ++ ": " ++
        reason.message),
      ("error_kind", "event_bus_unavailable")]⟩

theorem noticeEntry_eq (a : Announcement) : a.noticeEntry = a.notice := by
  cases a <;> rfl

theorem lossEntry_eq (a : Announcement) (reason : Undelivered) :
    a.lossEntry reason = a.loss reason :=
  rfl

end Announcement

/-! ## What stands around an offer -/

/-- The entries written before the next announcement is offered. -/
def untilOffer : List Deed → Journal
  | [] | .offered _ _ :: _ => []
  | .noted e :: rest => e :: untilOffer rest

/-- The entries written since an announcement was offered last, where those of `written` were
    written before. -/
def sinceOffer (written : Journal) : List Deed → Journal
  | [] => written
  | .offered _ _ :: rest => sinceOffer [] rest
  | .noted e :: rest => sinceOffer (written ++ [e]) rest

namespace Deed

/-- Deeds in good order: each offer is made right behind its notice, and a refusal is followed by
    its loss. All other entries are neither. -/
inductive InOrder : List Deed → Prop where
  | nil : InOrder []
  | noted {e : Entry} {rest : List Deed} (notNotice : e.isNotice = false)
      (notLoss : e.isLoss = false) (h : InOrder rest) : InOrder (.noted e :: rest)
  | taken (a : Announcement) {rest : List Deed} (h : InOrder rest) :
      InOrder (.noted a.notice :: .offered a true :: rest)
  | refused (a : Announcement) (reason : Undelivered) {rest : List Deed} (h : InOrder rest) :
      InOrder (.noted a.notice :: .offered a false :: .noted (a.loss reason) :: rest)

variable {deeds : List Deed}

theorem isNotice_notice (a : Announcement) : a.notice.isNotice = true := by
  cases a <;> rfl

theorem isLoss_notice (a : Announcement) : a.notice.isLoss = false := by
  cases a <;> rfl

theorem isNotice_loss (a : Announcement) (reason : Undelivered) :
    (a.loss reason).isNotice = false :=
  rfl

theorem isLoss_loss (a : Announcement) (reason : Undelivered) : (a.loss reason).isLoss = true :=
  rfl

/-- Where nothing has been offered yet, nothing is lost. -/
theorem InOrder.losses_untilOffer (h : InOrder deeds) :
    (untilOffer deeds).filter Entry.isLoss = [] := by
  induction h with
  | nil => rfl
  | noted notNotice notLoss _ ih => simpa [untilOffer, notLoss] using ih
  | taken a _ _ | refused a _ _ _ => simp [untilOffer, isLoss_notice]

/-- What stands before and behind an offer: since the last one just one notice, of what is offered,
    and before the next one just one loss, of the same, if it is refused. -/
theorem InOrder.around_offer (h : InOrder deeds) {before after : List Deed} {a : Announcement}
    {taken : Bool} (split : deeds = before ++ .offered a taken :: after) {written : Journal}
    (hwritten : written.filter Entry.isNotice = []) :
    (sinceOffer written before).filter Entry.isNotice = [a.notice] ∧
      (taken = true → (untilOffer after).filter Entry.isLoss = []) ∧
      (taken = false →
        ∃ reason, (untilOffer after).filter Entry.isLoss = [a.loss reason]) := by
  induction h generalizing before written with
  | nil => simp at split
  | @noted e rest notNotice notLoss _ ih =>
    cases before with
    | nil => cases split
    | cons d before =>
      cases split
      exact ih rfl (by simp [hwritten, notNotice])
  -- An offer behind the first one has a notice of its own, so what was written in front of the
  -- first one no longer counts: the induction goes on with what is written behind it.
  | @taken b rest h ih =>
    rcases before with - | ⟨d, - | ⟨d', before⟩⟩
    · cases split
    · -- this is the offer
      cases split
      exact ⟨by simp [sinceOffer, hwritten, isNotice_notice], fun _ => h.losses_untilOffer, nofun⟩
    · cases split
      exact ih rfl rfl
  | @refused b reason rest h ih =>
    rcases before with - | ⟨d, - | ⟨d', - | ⟨d'', before⟩⟩⟩
    · cases split
    · cases split
      refine ⟨by simp [sinceOffer, hwritten, isNotice_notice], nofun, fun _ => ⟨reason, ?_⟩⟩
      rw [untilOffer, List.filter_cons_of_pos (isLoss_loss a reason), h.losses_untilOffer]
    · cases split
    · cases split
      exact ih rfl (by simp [isNotice_loss])

end Deed

/-! ## What is done before a bus -/

/-- Whether an effect is to write down an entry that is neither a notice nor a loss, or to
    announce. -/
def Effect.IsPlain : Effect → Prop
  | .note e => e.isNotice = false ∧ e.isLoss = false
  | .announce _ => True

/-- Whether an effect is to write down an error. -/
def Effect.isError : Effect → Bool
  | .note e => e.level = .error
  | .announce _ => false

namespace Bus

variable {β : Type} (bus : Bus β)

/-- What is done before a bus is in good order. -/
theorem inOrder_performAll {effects : List Effect} (h : ∀ e ∈ effects, e.IsPlain) (state : β) :
    Deed.InOrder (bus.performAll state effects).2 := by
  induction effects generalizing state with
  | nil => exact .nil
  | cons e rest ih =>
    have hrest := ih fun e he => h e (List.mem_cons_of_mem _ he)
    rw [performAll_cons]
    cases e with
    | note e =>
      obtain ⟨notNotice, notLoss⟩ := h _ List.mem_cons_self
      exact .noted notNotice notLoss (hrest state)
    | announce a =>
      simp only [perform, announce, Announcement.noticeEntry_eq, Announcement.lossEntry_eq]
      split
      · exact .taken a (hrest _)
      · exact .refused a _ (hrest _)

theorem entries_append (front back : List Deed) :
    entries (front ++ back) = entries front ++ entries back :=
  List.filterMap_append

/-- The errors that are written down are those that are to be, and one for each refusal. -/
theorem countAt_error_performAll (state : β) (effects : List Effect) :
    (entries (bus.performAll state effects).2).countAt .error =
      (offers (bus.performAll state effects).2).countP (!·.2) + effects.countP Effect.isError := by
  induction effects generalizing state with
  | nil => rfl
  | cons e rest ih =>
    have hperform : (entries (bus.perform state e).2).countAt .error =
        (offers (bus.perform state e).2).countP (!·.2) + [e].countP Effect.isError := by
      cases e with
      | note e => simp [perform, entries, offers, Journal.countAt, Effect.isError]
      | announce a =>
        simp only [perform, announce, Announcement.noticeEntry_eq, Announcement.lossEntry_eq]
        split <;> cases a <;> rfl
    -- each of the three counts is a sum over the first effect and the others
    have hentries : ∀ front back : Journal,
        (front ++ back : Journal).countAt .error = front.countAt .error + back.countAt .error :=
      fun _ _ => List.countP_append
    have heffects : (e :: rest).countP Effect.isError =
        [e].countP Effect.isError + rest.countP Effect.isError := by
      rw [← List.countP_append, List.singleton_append]
    rw [performAll_cons, entries_append, hentries, offers_append, List.countP_append, heffects, ih,
      hperform]
    omega

end Bus

/-! ## Along a history -/

namespace Roster

/-- What a sighting calls for. -/
def calledFor (r : Roster) : Sighting → List Announcement
  | .seen id .idle => [.availability id true]
  | .seen id .busy => [.availability id false]
  | .seen id .undefined => if r.contains id then [.offline id] else []
  | .seen _ (.unrecognized _) => []
  | .cleared => r.workers.map (.offline ·.id)

theorem announcements_effectsOf (r : Roster) (s : Sighting) :
    announcements (r.effectsOf s) = r.calledFor s := by
  cases s with
  | cleared => exact announcements_dismiss r
  | seen id status =>
    unfold effectsOf calledFor
    rw [announcements_track]
    cases status <;> rfl

end Roster

/-- Whether a worker is seen with a word that means nothing. -/
def Sighting.isUnrecognized : Sighting → Bool
  | .seen _ (.unrecognized _) => true
  | .seen _ .idle | .seen _ .busy | .seen _ .undefined | .cleared => false

namespace Roster

/-- What is to be done when a worker is seen: one thing about its coming or going, and one about its
    status. -/
theorem effects_track (r : Roster) (id : WorkerId) (status : Status) :
    (r.track id status).effects =
      if status = .undefined then
        if r.contains id then [.note (removalEntry id), .announce (.offline id)] else []
      else (if r.contains id then [] else [.note (additionEntry id status)]) ++
        [statusEffect id status] := by
  by_cases hstatus : status = .undefined
  · rw [track_of_isUndefined r id (Status.isUndefined_iff.2 hstatus), if_pos hstatus]
    split <;> rfl
  · unfold track
    rw [if_neg (mt Status.isUndefined_iff.1 hstatus), if_neg hstatus, ← isSome_find?]
    unfold put
    cases r.find? id <;> rfl

theorem isPlain_statusEffect (id : WorkerId) (status : Status) :
    (statusEffect id status).IsPlain := by
  cases status with
  | idle | busy => trivial
  | undefined | unrecognized _ => exact ⟨rfl, rfl⟩

theorem isPlain_effectsOf (r : Roster) (s : Sighting) : ∀ e ∈ r.effectsOf s, e.IsPlain := by
  cases s with
  | cleared =>
    intro e he
    obtain ⟨w, -, rfl⟩ := List.mem_map.1 he
    trivial
  | seen id status =>
    have hremoval : (Effect.note (removalEntry id)).IsPlain := ⟨rfl, rfl⟩
    have haddition : (Effect.note (additionEntry id status)).IsPlain := ⟨rfl, rfl⟩
    have hoffline : (Effect.announce (.offline id)).IsPlain := trivial
    have hstatus := isPlain_statusEffect id status
    rw [effectsOf, effects_track]
    grind

/-- The only error that is to be written down is about a word that means nothing. -/
theorem countP_isError_effectsOf (r : Roster) (s : Sighting) :
    (r.effectsOf s).countP Effect.isError = if s.isUnrecognized then 1 else 0 := by
  cases s with
  | cleared => simp [effectsOf, dismiss, List.countP_map, Effect.isError, Sighting.isUnrecognized]
  | seen id status =>
    have hremoval : (Effect.note (removalEntry id)).isError = false := rfl
    have haddition : (Effect.note (additionEntry id status)).isError = false := rfl
    rw [effectsOf, effects_track]
    cases status with
    | undefined => rw [if_pos rfl]; split <;> rfl
    | idle | busy | unrecognized _ => rw [if_neg (by simp)]; split <;> rfl

theorem forall_mem_along {α : Type} {f : Roster → Sighting → List α} {p : α → Prop}
    (h : ∀ r s, ∀ a ∈ f r s, p a) (r : Roster) (hs : List Sighting) : ∀ a ∈ r.along f hs, p a := by
  induction hs generalizing r with
  | nil => exact nofun
  | cons s rest ih =>
    rw [along]
    exact List.forall_mem_append.2 ⟨h r s, ih _⟩

theorem countP_isError_along (r : Roster) (h : List Sighting) :
    (r.along effectsOf h).countP Effect.isError = h.countP Sighting.isUnrecognized := by
  induction h generalizing r with
  | nil => rfl
  | cons s rest ih =>
    rw [along, List.countP_append, ih, countP_isError_effectsOf, List.countP_cons]
    omega

end Roster

/-! ## Before any bus -/

namespace Bus

variable {β : Type} (bus : Bus β)

theorem performAll_append (state : β) (front back : List Effect) :
    bus.performAll state (front ++ back) =
      ((bus.performAll (bus.performAll state front).1 back).1,
        (bus.performAll state front).2 ++
          (bus.performAll (bus.performAll state front).1 back).2) := by
  induction front generalizing state with
  | nil => rfl
  | cons e rest ih =>
    rw [List.cons_append, performAll_cons, performAll_cons, ih, List.append_assoc]

/-- What is done before a bus about one sighting after the other. -/
def attend (state : β) (r : Roster) : List Sighting → β × List Deed
  | [] => (state, [])
  | s :: rest =>
    let (state, deeds) := bus.performAll state (r.effectsOf s)
    let (state, later) := attend state (r.meet s) rest
    (state, deeds ++ later)

/-- It is the same as carrying out in the end what is to be done along the history. -/
theorem attend_eq (state : β) (r : Roster) (h : List Sighting) :
    bus.attend state r h = bus.performAll state (r.along Roster.effectsOf h) := by
  induction h generalizing state r with
  | nil => rfl
  | cons s rest ih =>
    rw [Roster.along, performAll_append, ← ih]
    rfl

open Roster in
/-- Before any bus, whatever it takes and refuses, no announcement is lost without a word. Each
    offer has its notice in front of it, behind the offer before; and if it is refused, it has its
    loss behind it, in front of the next one. What is offered is what the history calls for, once
    each. There are as many errors as refusals and words that mean nothing. And that somebody is
    gone who is not known is nothing at all. -/
theorem nothing_lost_silently (state : β) (h : List Sighting) :
    (∀ before a taken after,
      (bus.attend state empty h).2 = before ++ .offered a taken :: after →
        (sinceOffer [] before).filter Entry.isNotice = [a.notice] ∧
        (taken = true → (untilOffer after).filter Entry.isLoss = []) ∧
        (taken = false →
          ∃ reason, (untilOffer after).filter Entry.isLoss = [a.loss reason])) ∧
    offered (bus.attend state empty h).2 = empty.along calledFor h ∧
    (entries (bus.attend state empty h).2).countAt .error =
      (offers (bus.attend state empty h).2).countP (!·.2) + h.countP Sighting.isUnrecognized ∧
    ∀ id, (ofSightings h).contains id = false →
      bus.attend state empty (h ++ [.seen id .undefined]) = bus.attend state empty h := by
  simp only [attend_eq]
  refine ⟨?around, ?offered, ?errors, ?unknown⟩
  case around =>
    intro before a taken after split
    have hplain := forall_mem_along isPlain_effectsOf empty h
    exact (bus.inOrder_performAll hplain state).around_offer split rfl
  case offered =>
    rw [bus.offered_performAll, announcements_along]
    simp only [announcements_effectsOf]
  case errors =>
    rw [bus.countAt_error_performAll, countP_isError_along]
  case unknown =>
    intro id hid
    -- there is nothing to be done about it, so the history ends in nothing
    have hnothing : (ofSightings h).along effectsOf [.seen id .undefined] = [] := by
      rw [along, effectsOf, effects_track, if_pos rfl, if_neg (by simp [hid])]
      rfl
    rw [ofSightings] at hnothing
    rw [along_append, hnothing, List.append_nil]

/-- A bus refuses the first announcement and the last one of three. Between the first and the second
    a worker is seen with a word that means nothing, and another one is gone who was never there. -/
theorem nothing_lost_silently_refused :
    let bus : Bus (List Bool) := ⟨fun answers _ =>
      (answers.tail, if answers.head? = some true then .ok () else .error .noSubscribers)⟩
    let h : List Sighting :=
      [.seen ⟨"w"⟩ .idle, .seen ⟨"w"⟩ (.unrecognized "paused"), .seen ⟨"v"⟩ .undefined,
        .seen ⟨"w"⟩ .busy, .cleared]
    ∃ before after,
      (bus.attend [false, true] .empty h).2 =
        before ++ .offered (.availability ⟨"w"⟩ true) false :: after ∧
      (sinceOffer [] before).filter Entry.isNotice =
        [⟨.info, "worker availability changed", [("worker", "w"), ("available", "true")]⟩] ∧
      (untilOffer after).length = 3 ∧
      (∃ reason, (untilOffer after).filter Entry.isLoss =
        [(Announcement.availability ⟨"w"⟩ true).loss reason]) ∧
      (entries (bus.attend [false, true] .empty h).2).countAt .error = 3 ∧
      (Roster.ofSightings h).contains ⟨"v"⟩ = false ∧
      bus.attend [false, true] .empty (h ++ [.seen ⟨"v"⟩ .undefined]) =
        bus.attend [false, true] .empty h := by
  intro bus h
  obtain ⟨haround, -, herrors, hunknown⟩ := bus.nothing_lost_silently [false, true] h
  obtain ⟨hnotice, -, hloss⟩ := haround [_, _] _ false _ rfl
  exact ⟨[_, _], _, rfl, hnotice, by decide, hloss rfl, herrors.trans (by decide), by decide,
    hunknown ⟨"v"⟩ (by decide)⟩

end Bus

end WorkerRoster
