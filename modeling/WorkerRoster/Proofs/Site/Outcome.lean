import WorkerRoster.Proofs.Site.Quiet
import WorkerRoster.Proofs.Turn

/-!
# What a Move Can Do

A move works on the innermost frame, or puts something on top of it; what is under way below stays
as it is. Here is said once what a move can do to the frames, to the monitors and to their listeners
(`Site.becomes_move`): no monitor has a part in it, or one takes a turn, or a question of one is
answered.

## Main statements

- `Site.becomes_move`: every move is of one of four kinds
- `Site.keeps_watchers`: what every turn of a monitor keeps is kept by every move
-/

set_option autoImplicit false

namespace WorkerRoster

/-- The listener for the registration that a question asks to be removed. -/
def Pending.dismissed? : Pending → Option ListenerId
  | .withdrawing id | .unsubscribing id => some id
  | _ => none

theorem Connection.listeners_request (c : Connection) :
    c.request.1.listeners = c.listeners := by
  unfold request
  dsimp only
  split
  · rfl
  · split <;> rfl

namespace Room

theorem listeners_enter (r : Room) : r.enter.1.listeners = r.listeners := by
  unfold enter
  split
  · rfl
  · split <;> rfl

theorem listeners_leave (r : Room) : r.leave.listeners = r.listeners := by
  unfold leave
  split <;> rfl

end Room

/-- Whether a question can have its reply at once. -/
def Pending.isPrompt : Pending → Bool
  | .probing | .obtaining _ | .entering _ _ => true
  | _ => false

/-- Whether a frame neither is part of a call nor tells of the registration. -/
def Frame.isPlain : Frame → Bool
  | .delivering _ _ | .introducing _ _ | .outside => true
  | .asking _ _ | .replying _ _ _ | .telling _ _ => false

theorem Frame.isTask_of_isPlain {f : Frame} (h : f.isPlain) : f.isTask = false := by
  cases f <;> first | rfl | cases h

namespace Site

variable {s s' s'' : Site} {index : Nat} {room : RoomRef} {f : Room → Room}

/-! ## Listeners -/

/-- The listeners in a room. -/
def guests (s : Site) (room : RoomRef) : List (ListenerId × RoomListener) :=
  (s.rooms[room.index]?).elim [] (·.listeners)

/-- No monitor has a listener that it did not have. -/
structure NoMore (s s' : Site) : Prop where
  outside : ∀ {id : ListenerId} {index : Nat},
    (id, .monitor index) ∈ s'.connection.listeners → (id, .monitor index) ∈ s.connection.listeners
  inside : ∀ {room : RoomRef} {id : ListenerId} {index : Nat} {generation : UInt64},
    (id, .monitor index generation) ∈ s'.guests room →
      (id, .monitor index generation) ∈ s.guests room

theorem guests_of_rooms (h : s'.rooms = s.rooms) : s'.guests room = s.guests room := by
  unfold guests
  rw [h]

theorem guests_changeRoom (s : Site) (room other : RoomRef) (f : Room → Room) :
    (s.changeRoom room f).guests other =
      if other = room then (s.rooms[room.index]?).elim [] (f · |>.listeners)
      else s.guests other := by
  obtain ⟨i⟩ := other
  obtain ⟨j⟩ := room
  simp only [guests, changeRoom, List.getElem?_modify, RoomRef.mk.injEq]
  -- `j` is the place that is changed, `i` the one that is asked about
  by_cases h : i = j
  · subst h
    cases s.rooms[i]? <;> simp
  · have hne : ¬ j = i := fun hji => h hji.symm
    simp [h, hne]

theorem mem_guests_changeRoom {other : RoomRef} {x : ListenerId × RoomListener}
    (h : x ∈ (s.changeRoom room f).guests other) :
    other ≠ room ∧ x ∈ s.guests other ∨
      other = room ∧ ∃ r, s.rooms[room.index]? = some r ∧ x ∈ (f r).listeners := by
  rw [guests_changeRoom] at h
  split at h
  · next heq =>
    cases hr : s.rooms[room.index]? with
    | none => simp [hr] at h
    | some r => exact .inr ⟨heq, r, rfl, by simpa [hr] using h⟩
  · next hne => exact .inl ⟨hne, h⟩

theorem guests_provideRoom (s : Site) (name : String) (room : RoomRef) :
    (s.provideRoom name).1.guests room = s.guests room := by
  unfold provideRoom
  split
  · rfl
  · simp only [guests, List.getElem?_append]
    split
    · rfl
    · next h =>
      have hnone : s.rooms[room.index]? = none := List.getElem?_eq_none (Nat.le_of_not_lt h)
      rw [hnone]
      cases room.index - s.rooms.length <;> simp

theorem parts_provideRoom (s : Site) (name : String) :
    (s.provideRoom name).1.connection = s.connection ∧
      (s.provideRoom name).1.watchers = s.watchers ∧
      (s.provideRoom name).1.stack = s.stack := by
  unfold provideRoom
  split <;> exact ⟨rfl, rfl, rfl⟩

namespace NoMore

theorem refl (s : Site) : NoMore s s :=
  ⟨id, id⟩

theorem trans (s' : Site) (h : NoMore s s') (h' : NoMore s' s'') : NoMore s s'' :=
  ⟨fun hx => h.outside (h'.outside hx), fun hx => h.inside (h'.inside hx)⟩

theorem of_eq (connection : s'.connection.listeners = s.connection.listeners)
    (rooms : s'.rooms = s.rooms) : NoMore s s' :=
  ⟨fun hx => connection ▸ hx, fun hx => guests_of_rooms rooms ▸ hx⟩

/-- A room whose listeners stay, but for outsiders. -/
theorem changeRoom (h : ∀ r, s.rooms[room.index]? = some r → ∀ id index generation,
      (id, .monitor index generation) ∈ (f r).listeners →
        (id, .monitor index generation) ∈ r.listeners) :
    NoMore s (s.changeRoom room f) := by
  refine ⟨id, fun hx => ?_⟩
  rcases mem_guests_changeRoom hx with ⟨-, hx⟩ | ⟨rfl, r, hr, hx⟩
  · exact hx
  · simpa [guests, hr] using h r hr _ _ _ hx

theorem replaceRoom {r r' : Room} (hr : s.rooms[room.index]? = some r)
    (h : r'.listeners = r.listeners) : NoMore s (s.changeRoom room fun _ => r') := by
  refine .changeRoom fun r₀ hr₀ _ _ _ hx => ?_
  rw [hr] at hr₀
  cases hr₀
  exact h ▸ hx

theorem provideRoom (s : Site) (name : String) : NoMore s (s.provideRoom name).1 := by
  refine ⟨fun hx => ?_, fun hx => guests_provideRoom s name _ ▸ hx⟩
  unfold Site.provideRoom at hx
  split at hx <;> exact hx

end NoMore

/-! ## Turns -/

/-- How a turn of a monitor comes about: by which move, which frame it takes the place of, and what
    goes on underneath. -/
inductive Cued (index : Nat) : Move → Option Frame → Cue → List Frame → Prop where
  /-- The monitor is called from outside. -/
  | called (c : Call) : Cued index (.call index c) none (.call c) []
  /-- The monitor is told of the registration. -/
  | told (targets : List RegistrationListener) (state : Registration) :
      Cued index .work (some (.telling (.monitor index :: targets) state))
        (.call (.registration state)) [.telling targets state]
  /-- The monitor gets a notice. -/
  | notified (generation : UInt64) (targets : List RoomListener) (n : Notice) :
      Cued index .work (some (.delivering (.monitor index generation :: targets) n))
        (.call (.notice generation n)) [.delivering targets n]
  /-- The monitor gets a reply. -/
  | replied (p : Pending) (r : p.Reply) :
      Cued index .work (some (.replying index p r)) (.reply p r) []
  /-- The monitor is answered at once. -/
  | answered {p : Pending} (r : p.Reply) (prompt : p.isPrompt) :
      Cued index .work (some (.asking index p)) (.reply p r) []

theorem call_of_some {m : Monitor} (h : s.watchers[index]? = some m) (c : Call) :
    s.call index c = s.apply index (m.turn (.call c)) := by
  rw [watchers, List.getElem?_map] at h
  obtain ⟨post, hpost, rfl⟩ := Option.map_eq_some_iff.1 h
  simp only [call, hpost]
  rfl

theorem call_of_none (h : s.watchers[index]? = none) (c : Call) : s.call index c = s := by
  rw [watchers, List.getElem?_map, Option.map_eq_none_iff] at h
  simp only [call, h]

theorem resume_of_some {m : Monitor} (h : s.watchers[index]? = some m) (p : Pending)
    (r : p.Reply) : s.resume index p r = s.apply index (m.turn (.reply p r)) := by
  rw [watchers, List.getElem?_map] at h
  obtain ⟨post, hpost, rfl⟩ := Option.map_eq_some_iff.1 h
  simp only [resume, hpost]
  rfl

theorem resume_of_none (h : s.watchers[index]? = none) (p : Pending) (r : p.Reply) :
    s.resume index p r = s := by
  rw [watchers, List.getElem?_map, Option.map_eq_none_iff] at h
  simp only [resume, h]

/-- Without a refusal on the way back a reply is handed over as it is. -/
theorem reply_none (s : Site) (index : Nat) (p : Pending) (r : p.Reply) :
    s.reply index none p r = s.resume index p r := by
  cases p <;> rfl

/-! ## Outcomes -/

/-- What a move can do: which frame it takes from the stack, which frames it puts there instead, and
    what becomes of the monitors and their listeners. -/
inductive Outcome (s : Site) : Move → Option Frame → List Frame → Site → Prop where
  /-- No monitor has a part in it. A new state of the registration is told to those who listen, or
      goes on being told. -/
  | apart {m : Move} {gone : Option Frame} {new : List Frame} {s' : Site}
      (watchers : s'.watchers = s.watchers) (noMore : NoMore s s')
      (gone_isTask : ∀ f ∈ gone, f.isTask = false) (new_isTask : ∀ f ∈ new, f.isTask = false)
      (tells : ∀ targets state, .telling targets state ∈ new →
        m = .setState state ∧ targets = s.connection.audience ∨
          ∃ l, gone = some (.telling (l :: targets) state)) :
      Outcome s m gone new s'
  /-- A frame of a monitor that is not there, or of one that asks to enter a room that is not
      there. -/
  | lost {index : Nat} {f : Frame} {s' : Site} (watchers : s'.watchers = s.watchers)
      (noMore : NoMore s s') (owner : Frame.isOf index f)
      (prompt : ∀ p, f = .asking index p → p.isPrompt)
      (astray : s.watchers[index]? = none ∨ ∃ generation seat,
        f = .asking index (.entering generation seat) ∧ s.guests seat.room = []) :
      Outcome s .work (some f) [] s'
  /-- A monitor takes a turn. -/
  | turn {m : Move} {gone : Option Frame} {index : Nat} {monitor : Monitor} {cue : Cue}
      {under : List Frame} {s' : Site} (cued : Cued index m gone cue under)
      (is : s.watchers[index]? = some monitor)
      (watchers : s'.watchers = s.watchers.set index (monitor.turn cue).monitor)
      (noMore : NoMore s s') :
      Outcome s m gone (((monitor.turn cue).pending.map (Frame.asking index)).toList ++ under) s'
  /-- A question of a monitor is answered, and the reply is on its way. -/
  | answered {index : Nat} {p : Pending} (r : p.Reply) {front : List Frame} {s' : Site}
      (watchers : s'.watchers = s.watchers)
      (front_plain : ∀ f ∈ front, f.isPlain)
      (outside : ∀ {id : ListenerId} {other : Nat},
        (id, .monitor other) ∈ s'.connection.listeners →
          (id, .monitor other) ∈ s.connection.listeners ∧ p.dismissed? ≠ some id ∨
            other = index ∧ (Cue.reply p r).registered? = some id)
      (inside : ∀ {room : RoomRef} {id : ListenerId} {other : Nat} {generation : UInt64},
        (id, .monitor other generation) ∈ s'.guests room →
          (id, .monitor other generation) ∈ s.guests room ∧ p.removed? ≠ some ⟨room, id⟩ ∨
            other = index ∧ (Cue.reply p r).added? = some ⟨room, id⟩) :
      Outcome s .work (some (.asking index p)) (front ++ [.replying index p r]) s'

/-- A move comes to this: the innermost frame may be gone, others may be there, and what is below
    stays as it is. -/
def Becomes (s : Site) (m : Move) (s' : Site) : Prop :=
  ∃ gone new rest, s.stack = gone.toList ++ rest ∧ s'.stack = new ++ rest ∧
    s.Outcome m gone new s'

section Kinds

variable {b : Site} {m : Move} {gone : Option Frame} {new : List Frame}

/-- A move in which no monitor has a part, and that tells nobody of the registration. -/
theorem Outcome.ofApart (watchers : s'.watchers = s.watchers) (noMore : NoMore s s')
    (gone_isTask : ∀ f ∈ gone, f.isTask = false)
    (plain : ∀ f ∈ new, f.isPlain) : s.Outcome m gone new s' := by
  refine .apart watchers noMore gone_isTask (fun f hf => ?_) fun targets state hf => ?_
  · exact Frame.isTask_of_isPlain (plain f hf)
  · have hplain := plain _ hf
    simp [Frame.isPlain] at hplain

theorem Outcome.lostAsking {p : Pending} (watchers : s'.watchers = s.watchers)
    (noMore : NoMore s s') (prompt : p.isPrompt)
    (astray : s.watchers[index]? = none ∨ ∃ generation seat,
      p = .entering generation seat ∧ s.guests seat.room = []) :
    s.Outcome .work (some (.asking index p)) [] s' := by
  refine .lost watchers noMore (by simp [Frame.isOf]) ?_ (astray.imp_right ?_)
  · rintro _ ⟨⟩
    exact prompt
  · rintro ⟨generation, seat, rfl, hempty⟩
    exact ⟨generation, seat, rfl, hempty⟩

/-- A turn, after something that is nothing to the monitors. -/
theorem exists_outcome_apply {monitor : Monitor} {cue : Cue} {under : List Frame}
    (rest : List Frame) (cued : Cued index m gone cue under)
    (is : s.watchers[index]? = some monitor) (watchers : b.watchers = s.watchers)
    (noMore : NoMore s b) (stack : b.stack = under ++ rest) :
    ∃ new, (b.apply index (monitor.turn cue)).stack = new ++ rest ∧
      s.Outcome m gone new (b.apply index (monitor.turn cue)) := by
  obtain ⟨hrooms, -, -, hstack⟩ := b.parts_apply index (monitor.turn cue)
  have hconnection := b.connection_apply index (monitor.turn cue)
  refine ⟨_, ?_, .turn cued is ?_ (.trans b noMore (.of_eq ?_ hrooms))⟩
  · rw [hstack, stack, List.append_assoc]
  · rw [watchers_apply_eq, watchers]
  · rw [hconnection]

/-- A reply is handed over, after something that is nothing to the monitors. -/
theorem exists_outcome_resume {f : Frame} {p : Pending} {r : p.Reply}
    (cued : Cued index .work (some f) (.reply p r) [])
    (watchers : b.watchers = s.watchers) (noMore : NoMore s b) :
    ∃ new, (b.resume index p r).stack = new ++ b.stack ∧
      s.Outcome .work (some f) new (b.resume index p r) := by
  cases is : s.watchers[index]? with
  | some monitor =>
    rw [resume_of_some (watchers ▸ is)]
    exact exists_outcome_apply b.stack cued is watchers noMore rfl
  | none =>
    -- nobody is there to take the reply
    rw [resume_of_none (watchers ▸ is)]
    have howner : Frame.isOf index f := by cases cued <;> simp [Frame.isOf]
    have hprompt : ∀ q, f = .asking index q → q.isPrompt := by
      rintro q rfl
      cases cued
      assumption
    exact ⟨[], rfl, .lost watchers noMore howner hprompt (.inl is)⟩

end Kinds

/-! ## Work -/

/-- A question is answered that changes at most the listeners for the registration. -/
theorem Outcome.answeredOutside {p : Pending} {r : p.Reply}
    (watchers : s'.watchers = s.watchers) (rooms : s'.rooms = s.rooms) (apart : p.removed? = none)
    (outside : ∀ {id : ListenerId} {other : Nat},
      (id, .monitor other) ∈ s'.connection.listeners →
        (id, .monitor other) ∈ s.connection.listeners ∧ p.dismissed? ≠ some id ∨
          other = index ∧ (Cue.reply p r).registered? = some id) :
    s.Outcome .work (some (.asking index p)) ([] ++ [.replying index p r]) s' :=
  .answered r watchers (by simp) outside fun hx =>
    .inl ⟨guests_of_rooms rooms ▸ hx, by simp [apart]⟩

/-- A question is answered that changes at most the listeners in a room. -/
theorem Outcome.answeredInside {p : Pending} {r : p.Reply} (front : List Frame)
    (watchers : s'.watchers = s.watchers)
    (connection : s'.connection.listeners = s.connection.listeners)
    (apart : p.dismissed? = none)
    (front_plain : ∀ f ∈ front, f.isPlain)
    (inside : ∀ {room : RoomRef} {id : ListenerId} {other : Nat} {generation : UInt64},
      (id, .monitor other generation) ∈ s'.guests room →
        (id, .monitor other generation) ∈ s.guests room ∧ p.removed? ≠ some ⟨room, id⟩ ∨
          other = index ∧ (Cue.reply p r).added? = some ⟨room, id⟩) :
    s.Outcome .work (some (.asking index p)) (front ++ [.replying index p r]) s' :=
  .answered r watchers front_plain (fun hx => .inl ⟨connection ▸ hx, by simp [apart]⟩) inside

/-- A listener in a room is removed. -/
theorem Outcome.removed {p : Pending} (r : p.Reply) {seat : Seat}
    (watchers : s'.watchers = s.watchers)
    (connection : s'.connection.listeners = s.connection.listeners)
    (rooms : s'.rooms = (s.changeRoom seat.room (·.unlisten seat.listener)).rooms)
    (removes : p.removed? = some seat) (apart : p.dismissed? = none) :
    s.Outcome .work (some (.asking index p)) ([] ++ [.replying index p r]) s' := by
  refine .answeredInside [] watchers connection apart (by simp) ?_
  intro room id other generation hx
  left
  rw [guests_of_rooms rooms] at hx
  rw [removes]
  rcases mem_guests_changeRoom hx with ⟨hne, hx⟩ | ⟨rfl, r, hr, hx⟩
  · -- a listener in another room
    refine ⟨hx, ?_⟩
    rintro ⟨⟩
    exact hne rfl
  · -- another listener in this room
    obtain ⟨hx, hid⟩ := List.mem_filter.1 hx
    refine ⟨by simpa [guests, hr] using hx, fun heq => ?_⟩
    rw [Option.some.inj heq] at hid
    simp at hid

/-- A question is answered at once, or the reply is on its way. -/
theorem exists_outcome_answer (index : Nat) (p : Pending) (rest : List Frame) :
    ∃ new, (({ s with stack := rest } : Site).answer index none p).stack = new ++ rest ∧
      s.Outcome .work (some (.asking index p)) new
        (({ s with stack := rest } : Site).answer index none p) := by
  cases p with
  | subscribing =>
    refine ⟨_, rfl, .answeredOutside rfl rfl rfl ?_⟩
    intro id other hx
    rcases List.mem_append.1 hx with hx | hx
    · exact .inl ⟨hx, by simp [Pending.dismissed?]⟩
    · cases List.mem_singleton.1 hx
      exact .inr ⟨rfl, rfl⟩
  | withdrawing id | unsubscribing id =>
    refine ⟨_, rfl, .answeredOutside rfl rfl rfl ?_⟩
    intro other _ hx
    obtain ⟨hx, hne⟩ := List.mem_filter.1 hx
    refine .inl ⟨hx, ?_⟩
    rintro ⟨⟩
    simp at hne
  | probing => exact exists_outcome_resume (.answered _ rfl) rfl (.of_eq rfl rfl)
  | obtaining generation =>
    unfold answer
    dsimp only
    have hlisteners := s.connection.listeners_request
    split
    · next connection refusal hrequest =>
      rw [hrequest] at hlisteners
      exact exists_outcome_resume (.answered _ rfl) rfl (.of_eq hlisteners rfl)
    · next connection hrequest =>
      rw [hrequest] at hlisteners
      -- a room that is provided brings no listeners with it
      split
      · next post _ =>
        obtain ⟨hconnection, hwatchers, hstack⟩ :=
          ({ s with connection, stack := rest } : Site).parts_provideRoom post.monitor.room
        refine ⟨[_], congrArg (List.cons _) hstack, .answeredInside [] hwatchers ?_ rfl
          (by simp) fun hx => .inl ⟨?_, by simp [Pending.removed?]⟩⟩
        · exact (congrArg (·.listeners) hconnection).trans hlisteners
        · exact (guests_provideRoom { s with connection, stack := rest } _ _) ▸ hx
      · next hnone =>
        refine ⟨[], rfl, .lostAsking rfl (.of_eq hlisteners rfl) rfl (.inl ?_)⟩
        rw [watchers, List.getElem?_map, hnone, Option.map_none]
  | listening generation room =>
    refine ⟨_, rfl, .answeredInside [] rfl rfl rfl (by simp) ?_⟩
    intro room' id other generation' hx
    rcases mem_guests_changeRoom hx with ⟨-, hx⟩ | ⟨rfl, r, hr, hx⟩
    · exact .inl ⟨hx, by simp [Pending.removed?]⟩
    · rcases List.mem_append.1 hx with hx | hx
      · -- one that listened before
        refine .inl ⟨?_, by simp [Pending.removed?]⟩
        have hr : s.rooms[room'.index]? = some r := hr
        simpa [guests, hr] using hx
      · cases List.mem_singleton.1 hx
        exact .inr ⟨rfl, rfl⟩
  | entering generation seat =>
    unfold answer
    dsimp only
    split
    · next room hroom =>
      have hlisteners : room.enter.1.listeners = room.listeners := room.listeners_enter
      split
      · next room' refusal hentry =>
        rw [hentry] at hlisteners
        exact exists_outcome_resume (.answered _ rfl) rfl
          (.trans { s with stack := rest } (.of_eq rfl rfl) (.replaceRoom hroom hlisteners))
      · next room' occupants hentry =>
        -- the members are introduced before the reply is handed over
        rw [hentry] at hlisteners
        refine ⟨_, rfl, .answeredInside [_] rfl rfl rfl ?_ fun hx =>
          .inl ⟨?_, by simp [Pending.removed?]⟩⟩
        · simp [Frame.isPlain]
        · exact (NoMore.replaceRoom (s := s) hroom hlisteners).inside hx
    · next hnone =>
      -- nobody listens in a room that is not there
      have hnone : s.rooms[seat.room.index]? = none := hnone
      refine ⟨[], rfl, .lostAsking rfl (.of_eq rfl rfl) rfl (.inr ⟨generation, seat, rfl, ?_⟩)⟩
      rw [guests, hnone, Option.elim_none]
  | retreating generation seat refusal | releasing seat parting =>
    exact ⟨_, rfl, .removed () rfl rfl rfl rfl rfl⟩
  | leaving seat parting =>
    refine ⟨_, rfl, .answeredInside [] rfl rfl rfl (by simp) fun hx =>
      .inl ⟨?_, by simp [Pending.removed?]⟩⟩
    refine (NoMore.changeRoom (s := s) fun r _ _ _ _ hx => ?_).inside hx
    exact r.listeners_leave ▸ hx

/-- A listener of a monitor that is not there is not called. -/
theorem watchers_of_isThere (h : s.isThere index) : ∃ m, s.watchers[index]? = some m := by
  unfold isThere at h
  cases hpost : s.monitors[index]? with
  | none => simp [hpost] at h
  | some post => exact ⟨post.monitor, by simp [watchers, hpost]⟩

theorem exists_outcome_tell (l : RegistrationListener) (targets : List RegistrationListener)
    (state : Registration) (rest : List Frame) :
    ∃ new, (({ s with stack := .telling targets state :: rest } : Site).tell state l).stack =
        new ++ rest ∧
      s.Outcome .work (some (.telling (l :: targets) state)) new
        (({ s with stack := .telling targets state :: rest } : Site).tell state l) := by
  cases l with
  | monitor index =>
    simp only [tell]
    split
    · next hthere =>
      obtain ⟨m, hm⟩ := watchers_of_isThere hthere
      rw [call_of_some hm]
      exact exists_outcome_apply rest (.told targets state) hm rfl (.of_eq rfl rfl) rfl
    · -- it is passed over, and the others are told
      refine ⟨[_], rfl, .apart rfl (.of_eq rfl rfl) (by simp [Frame.isTask])
        (by simp [Frame.isTask]) ?_⟩
      simp
  | outsider tag =>
    refine ⟨[_, _], rfl, .apart rfl (.of_eq rfl rfl) (by simp [Frame.isTask])
      (by simp [Frame.isTask]) ?_⟩
    simp

theorem exists_outcome_deliver (l : RoomListener) (targets : List RoomListener) (n : Notice)
    (rest : List Frame) :
    ∃ new, (({ s with stack := .delivering targets n :: rest } : Site).deliver n l).stack =
        new ++ rest ∧
      s.Outcome .work (some (.delivering (l :: targets) n)) new
        (({ s with stack := .delivering targets n :: rest } : Site).deliver n l) := by
  cases l with
  | monitor index generation =>
    simp only [deliver]
    split
    · next hthere =>
      obtain ⟨m, hm⟩ := watchers_of_isThere hthere
      rw [call_of_some hm]
      exact exists_outcome_apply rest (.notified generation targets n) hm rfl (.of_eq rfl rfl) rfl
    · exact ⟨[_], rfl, .ofApart rfl (.of_eq rfl rfl) (by simp [Frame.isTask])
        (by simp [Frame.isPlain])⟩
  | outsider tag =>
    exact ⟨[_, _], rfl, .ofApart rfl (.of_eq rfl rfl) (by simp [Frame.isTask])
      (by simp [Frame.isPlain])⟩

theorem Becomes.ofWork {f : Frame} {rest : List Frame} (stack : s.stack = f :: rest)
    (h : ∃ new, s'.stack = new ++ rest ∧ s.Outcome .work (some f) new s') : s.Becomes .work s' := by
  obtain ⟨new, hnew, houtcome⟩ := h
  exact ⟨some f, new, rest, stack, hnew, houtcome⟩

theorem Becomes.finished {f : Frame} {rest : List Frame} (stack : s.stack = f :: rest)
    (h : f.isTask = false) : s.Becomes .work { s with stack := rest } :=
  .ofWork stack ⟨[], rfl, .ofApart rfl (.of_eq rfl rfl) (by simp [h]) (by simp)⟩

theorem becomes_step (s : Site) : s.Becomes .work (s.step none) := by
  unfold step
  split
  · next hstack =>
    exact ⟨none, [], [], hstack, by simp [hstack], .ofApart rfl (.refl s) (by simp) (by simp)⟩
  · next index p rest hstack => exact .ofWork hstack (s.exists_outcome_answer index p rest)
  · next index p r rest hstack =>
    rw [reply_none]
    exact .ofWork hstack (exists_outcome_resume (.replied p r) rfl (.of_eq rfl rfl))
  · next hstack => exact .finished hstack rfl
  · next l targets state rest hstack =>
    exact .ofWork hstack (s.exists_outcome_tell l targets state rest)
  · next hstack => exact .finished hstack rfl
  · next l targets n rest hstack =>
    exact .ofWork hstack (s.exists_outcome_deliver l targets n rest)
  · next hstack => exact .finished hstack rfl
  · next hstack =>
    -- the next member is announced, and the others are announced after that
    exact .ofWork hstack ⟨[_, _], rfl, .ofApart rfl (.of_eq rfl rfl) (by simp [Frame.isTask])
      (by simp [Frame.isPlain])⟩
  · next hstack => exact .finished hstack rfl

/-! ## Moves -/

theorem becomes_still {m : Move} (stack : s'.stack = s.stack)
    (watchers : s'.watchers = s.watchers) (noMore : NoMore s s') : s.Becomes m s' :=
  ⟨none, [], s.stack, rfl, stack, .ofApart watchers noMore (by simp) (by simp)⟩

/-- What puts a frame on the stack that is nothing to the monitors. -/
theorem becomes_push {m : Move} {f : Frame} (plain : f.isPlain)
    (stack : s'.stack = s.stack) (watchers : s'.watchers = s.watchers) (noMore : NoMore s s') :
    s.Becomes m (s'.push f) := by
  refine ⟨none, [f], s.stack, rfl, congrArg (List.cons f) stack, ?_⟩
  refine .ofApart watchers (.trans s' noMore (.of_eq rfl rfl)) (by simp) ?_
  exact fun g hg => List.mem_singleton.1 hg ▸ plain

theorem becomes_happen {m : Move} (room : RoomRef) (f : Room → Room × Notice)
    (h : ∀ r, (f r).1.listeners = r.listeners) : s.Becomes m (s.happen room f) := by
  unfold happen
  split
  · next r hr => exact becomes_push rfl rfl rfl (.replaceRoom hr (h r))
  · exact becomes_still rfl rfl (.refl s)

/-- Every move is of one of four kinds. -/
theorem becomes_move (s : Site) (m : Move) : s.Becomes m (s.move m) := by
  cases m with
  | work => exact s.becomes_step
  | call index c =>
    simp only [move]
    cases hm : s.watchers[index]? with
    | some monitor =>
      rw [call_of_some hm]
      obtain ⟨new, hnew, houtcome⟩ :=
        exists_outcome_apply s.stack (.called c) hm rfl (.refl s) rfl
      exact ⟨none, new, s.stack, rfl, hnew, houtcome⟩
    | none =>
      -- a monitor that is not there takes no turn
      rw [call_of_none hm]
      exact becomes_still rfl rfl (.refl s)
  | setState state =>
    -- the only move that begins to tell of the registration
    refine ⟨none, [_], s.stack, rfl, rfl, .apart rfl (.of_eq rfl rfl) (by simp)
      (by simp [Frame.isTask]) ?_⟩
    intro targets state' htelling
    cases List.mem_singleton.1 htelling
    exact .inl ⟨rfl, rfl⟩
  | refuseNextRequest refusal => exact becomes_still rfl rfl (.of_eq rfl rfl)
  -- what an outsider does to rooms and listeners is nothing to the monitors
  | requestRoom name =>
    have hlisteners := s.connection.listeners_request
    simp only [move, requestRoom]
    split
    · next connection refusal hrequest =>
      rw [hrequest] at hlisteners
      exact becomes_still rfl rfl (.of_eq hlisteners rfl)
    · next connection hrequest =>
      rw [hrequest] at hlisteners
      obtain ⟨-, hwatchers, hstack⟩ := ({ s with connection } : Site).parts_provideRoom name
      exact becomes_still hstack hwatchers
        (.trans { s with connection } (.of_eq hlisteners rfl) (.provideRoom _ name))
  | provideRoom name =>
    obtain ⟨-, hwatchers, hstack⟩ := s.parts_provideRoom name
    exact becomes_still hstack hwatchers (.provideRoom s name)
  -- only notices come on the stack, and no listener is added
  | arrive room id presence => exact becomes_happen room _ fun _ => rfl
  | update room id presence => exact becomes_happen room _ fun _ => rfl
  | depart room id kind => exact becomes_happen room _ fun _ => rfl
  | notify room n => exact becomes_push rfl rfl rfl (.refl s)
  | refuseNextEntry room refusal =>
    exact becomes_still rfl rfl (.changeRoom fun _ _ _ _ _ hx => hx)
  | enter room =>
    simp only [move, enterRoom]
    split
    · next r hr =>
      have hlisteners : r.enter.1.listeners = r.listeners := r.listeners_enter
      split
      · next r' refusal hentry =>
        rw [hentry] at hlisteners
        exact becomes_still rfl rfl (.replaceRoom hr hlisteners)
      · next r' occupants hentry =>
        rw [hentry] at hlisteners
        exact becomes_push rfl rfl rfl (.replaceRoom hr hlisteners)
    · exact becomes_still rfl rfl (.refl s)
  | leave room =>
    exact becomes_still rfl rfl (.changeRoom fun r _ _ _ _ hx => r.listeners_leave ▸ hx)
  -- a listener that is added is an outsider's
  | listenToRegistration tag =>
    refine becomes_still rfl rfl ⟨fun hx => ?_, fun hx => hx⟩
    rcases List.mem_append.1 hx with hx | hx
    · exact hx
    · cases List.mem_singleton.1 hx
  | listenToRoom room tag =>
    refine becomes_still rfl rfl
      (.trans s.takeListener.1 (.of_eq rfl rfl) (.changeRoom fun r _ _ _ _ hx => ?_))
    rcases List.mem_append.1 hx with hx | hx
    · exact hx
    · cases List.mem_singleton.1 hx
  | unlistenToRegistration id =>
    exact becomes_still rfl rfl ⟨fun hx => (List.mem_filter.1 hx).1, fun hx => hx⟩
  | unlistenToRoom room id =>
    exact becomes_still rfl rfl (.changeRoom fun _ _ _ _ _ hx => (List.mem_filter.1 hx).1)
  | drop index => exact becomes_still rfl (s.watchers_dropMonitor index) (.of_eq rfl rfl)

/-! ## What becomes of the monitors -/

theorem Outcome.watchers {m : Move} {gone : Option Frame} {new : List Frame}
    (h : s.Outcome m gone new s') :
    s'.watchers = s.watchers ∨ ∃ index monitor cue, s.watchers[index]? = some monitor ∧
      s'.watchers = s.watchers.set index (Monitor.turn monitor cue).monitor := by
  cases h with
  | apart watchers | lost watchers | answered _ watchers => exact .inl watchers
  | turn _ is watchers => exact .inr ⟨_, _, _, is, watchers⟩

/-- What every turn of a monitor keeps is kept by every move. -/
theorem keeps_watchers {P : Monitor → Prop} (turn : ∀ m cue, P m → P (Monitor.turn m cue).monitor)
    (h : ∀ monitor ∈ s.watchers, P monitor) (m : Move) :
    ∀ monitor ∈ (s.move m).watchers, P monitor := by
  obtain ⟨gone, new, rest, -, -, houtcome⟩ := s.becomes_move m
  rcases houtcome.watchers with hsame | ⟨index, monitor, cue, is, hset⟩
  · rw [hsame]
    exact h
  · rw [hset]
    intro other hother
    rcases List.mem_or_eq_of_mem_set hother with hother | rfl
    · exact h other hother
    · exact turn monitor cue (h monitor (List.mem_of_getElem? is))

theorem length_watchers_move (s : Site) (m : Move) :
    (s.move m).watchers.length = s.watchers.length := by
  obtain ⟨gone, new, rest, -, -, houtcome⟩ := s.becomes_move m
  rcases houtcome.watchers with hsame | ⟨index, monitor, cue, -, hset⟩
  · rw [hsame]
  · rw [hset, List.length_set]

end Site

end WorkerRoster
