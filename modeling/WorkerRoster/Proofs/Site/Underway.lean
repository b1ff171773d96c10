import WorkerRoster.Proofs.Site.Rooms

/-!
# Notices on Their Way to a Listener

A room changes first and tells afterwards, and whoever is called with a notice may change the room
again before the next listener is called. So notices of several changes can be on their way to a
listener at the same time. They lie on the stack, and the innermost is heard first: a notice of a
later change is heard before those that are on their way already.

Here it is said, for one listener in a room and one address, what a move does to the notices that
are on their way.

## Main statements

- `Site.hears_move`: what a move does to the notices on their way to a listener
- `Site.heard_after`: an outsider has heard what its listener was called with
-/

set_option autoImplicit false

namespace WorkerRoster

/-! ## Notices on their way -/

/-- The notices about somebody that a listener in a room is yet to be called with by a frame, the
    next one first. -/
def Frame.underWay (room : RoomRef) (l : RoomListener) (w : WorkerId) : Frame → List Notice
  | .delivering targets n => if n.occupant.id = w then List.replicate (targets.count l) n else []
  | .introducing other waiting =>
    if other = room then (waiting.filter (·.id = w)).map (Notice.mk .joined) else []
  | .asking _ _ | .replying _ _ _ | .telling _ _ | .outside => []

/-- Whether the last notice about an address, if there was one, shows who has the address. -/
def Notice.Tells (last : Option Notice) : Option Occupant → Prop
  | some member => ∃ n ∈ last, (n.kind = .joined ∨ n.kind = .changed) ∧ n.occupant = member
  | none => ∀ n ∈ last, n.kind.isDeparture

instance (last : Option Notice) :
    (member : Option Occupant) → Decidable (Notice.Tells last member)
  | some member => inferInstanceAs
    (Decidable (∃ n ∈ last, (n.kind = .joined ∨ n.kind = .changed) ∧ n.occupant = member))
  | none => inferInstanceAs (Decidable (∀ n ∈ last, n.kind.isDeparture))

theorem Frame.underWay_delivering {room : RoomRef} {l : RoomListener} {w : WorkerId}
    {targets : List RoomListener} {n : Notice} (h : l ∉ targets) :
    (delivering targets n).underWay room l w = [] := by
  simp [underWay, List.count_eq_zero.2 h]

/-- A notice of what happened to a member shows who has the address now. -/
theorem Room.Happens.tells {r r' : Room} {n : Notice} (h : r.Happens r' n)
    (distinct : r.IsDistinct) : Notice.Tells (some n) (r'.occupant? n.occupant.id) := by
  rw [h.self distinct]
  -- who came or changed has the address, and who departed has it no longer
  split
  · next hkind =>
    rintro _ ⟨⟩
    exact hkind
  · next hkind =>
    refine ⟨n, rfl, ?_, rfl⟩
    cases hn : n.kind <;> simp_all [NoticeKind.isDeparture]

namespace Site

/-- The site after some moves. -/
def after (s : Site) (ms : List Move) : Site :=
  ms.foldl move s

/-- The member of an address in a room. -/
def member? (s : Site) (room : RoomRef) (w : WorkerId) : Option Occupant :=
  (s.rooms[room.index]?).bind (·.occupant? w)

/-- Whether a room is entered. -/
def isOpen (s : Site) (room : RoomRef) : Bool :=
  (s.rooms[room.index]?).any (·.isEntered)

/-- The notices about somebody that are on their way to a listener in a room, the next one first. -/
def underWay (s : Site) (room : RoomRef) (l : RoomListener) (w : WorkerId) : List Notice :=
  s.stack.flatMap (Frame.underWay room l w)

/-- The notice about somebody that a listener is called with in a move. -/
def told? (s : Site) (l : RoomListener) (w : WorkerId) : Move → Option Notice
  | .work =>
    match s.stack with
    | .delivering (target :: _) n :: _ => if target = l ∧ n.occupant.id = w then some n else none
    | _ => none
  | _ => none

/-- The notices about somebody that a listener is called with in some moves, in order. -/
def told (s : Site) (l : RoomListener) (w : WorkerId) : List Move → List Notice
  | [] => []
  | m :: ms => (s.told? l w m).toList ++ (s.move m).told l w ms

/-- Whether a move is a change of somebody in a room. -/
def Move.changes (room : RoomRef) (w : WorkerId) : Move → Bool
  | .arrive other id _ | .update other id _ | .depart other id _ => other = room && id = w
  | _ => false

/-- Whether a move tells nothing in a room but what happens there, and calls only that a departure
    which is one. -/
def Move.isPlain (room : RoomRef) : Move → Bool
  | .notify other _ => other ≠ room
  | .depart other _ kind => other ≠ room || kind.isDeparture
  | _ => true

/-- Whether a listener listens in no other room that is entered. -/
def IsAlone (s : Site) (room : RoomRef) (l : RoomListener) : Prop :=
  ∀ other, other ≠ room → l ∉ s.roomAudience other

variable {s s' s'' : Site} {room other : RoomRef} {l : RoomListener} {w : WorkerId} {m : Move}
  {f : Frame} {n : Notice}

theorem after_concat (s : Site) (ms : List Move) (m : Move) :
    s.after (ms ++ [m]) = (s.after ms).move m := by
  rw [after, List.foldl_append]
  rfl

theorem told_concat (s : Site) (ms : List Move) (m : Move) :
    s.told l w (ms ++ [m]) = s.told l w ms ++ ((s.after ms).told? l w m).toList := by
  -- the site is another one after each move
  induction ms generalizing s with
  | nil => simp [told, after]
  | cons m' ms ih =>
    rw [List.cons_append, told, told, ih, List.append_assoc]
    rfl

theorem isOpen_of_mem_roomAudience (h : l ∈ s.roomAudience room) : s.isOpen room := by
  unfold roomAudience at h
  split at h
  · next r hr =>
    rw [isOpen, hr, Option.any_some]
    -- a room that is not entered has no audience
    by_contra hclosed
    simp [Room.audience, hclosed] at h
  · simp at h

theorem getElem?_changeRoom (s : Site) (room other : RoomRef) (g : Room → Room) :
    (s.changeRoom other g).rooms[room.index]? =
      if other = room then (s.rooms[room.index]?).map g else s.rooms[room.index]? := by
  obtain ⟨i⟩ := room
  obtain ⟨j⟩ := other
  simp only [changeRoom, List.getElem?_modify, RoomRef.mk.injEq]
  split <;> simp

/-! ## What a listener does not notice -/

/-- Nothing is on its way to a listener that was not before, nobody came, went or showed something
    new, and the room was not entered. -/
structure Untouched (room : RoomRef) (l : RoomListener) (w : WorkerId) (s s' : Site) : Prop where
  underWay : s'.underWay room l w = s.underWay room l w
  member : s'.member? room w = s.member? room w
  door : s'.isOpen room → s.isOpen room

namespace Untouched

theorem refl (s : Site) : Untouched room l w s s :=
  ⟨rfl, rfl, id⟩

theorem trans (s' : Site) (h : Untouched room l w s s') (h' : Untouched room l w s' s'') :
    Untouched room l w s s'' :=
  ⟨h'.underWay.trans h.underWay, h'.member.trans h.member, fun hopen => h.door (h'.door hopen)⟩

theorem of_rooms (rooms : s'.rooms = s.rooms)
    (underWay : s'.underWay room l w = s.underWay room l w) : Untouched room l w s s' := by
  refine ⟨underWay, ?_, ?_⟩
  · rw [member?, member?, rooms]
  · rw [isOpen, isOpen, rooms]
    exact id

theorem push (h : f.underWay room l w = []) : Untouched room l w s (s.push f) :=
  of_rooms rfl (by rw [Site.underWay, Site.push, List.flatMap_cons, h]; rfl)

/-- The innermost frame is done with, or another one takes its place. -/
theorem popped {rest : List Frame} (new : List Frame) (stack : s.stack = f :: rest)
    (h : new.flatMap (Frame.underWay room l w) = f.underWay room l w) :
    Untouched room l w s { s with stack := new ++ rest } :=
  of_rooms rfl (by simp only [Site.underWay, stack, List.flatMap_append, List.flatMap_cons, h])

theorem changeRoom {g : Room → Room}
    (h : ∀ r, s.rooms[other.index]? = some r → other = room →
      (g r).occupant? w = r.occupant? w ∧ ((g r).isEntered → r.isEntered)) :
    Untouched room l w s (s.changeRoom other g) := by
  refine ⟨rfl, ?_, ?_⟩
  -- members and door are both read off the room, so they go the same way
  all_goals
    simp only [member?, isOpen, getElem?_changeRoom]
    split
    · next hother =>
      subst hother
      cases hr : s.rooms[other.index]? with
      | none => simp
      | some r => simp +contextual [h r hr rfl]
    · simp

/-- A room takes the place of one that has the same members, or of another room. -/
theorem replaceRoom {r r' : Room} (hr : s.rooms[other.index]? = some r)
    (h : other = room → r'.occupant? w = r.occupant? w ∧ (r'.isEntered → r.isEntered)) :
    Untouched room l w s (s.changeRoom other fun _ => r') := by
  refine changeRoom fun r₀ hr₀ hother => ?_
  rw [hr] at hr₀
  cases hr₀
  exact h hother

theorem leave : Untouched room l w s (s.changeRoom other Room.leave) := by
  refine changeRoom fun r _ _ => ⟨?_, ?_⟩
  · rw [Room.occupant?, Room.occupant?, r.occupants_leave]
  · simp [r.isEntered_leave]

theorem provideRoom (name : String) : Untouched room l w s (s.provideRoom name).1 := by
  unfold Site.provideRoom
  split
  · exact refl s
  · refine ⟨rfl, ?_, ?_⟩
    all_goals
      simp only [member?, isOpen, List.getElem?_append]
      split
      · simp
      · next h =>
        -- nobody is in the new room, and it is not entered
        rw [List.getElem?_eq_none (Nat.le_of_not_lt h)]
        cases room.index - s.rooms.length <;> simp [Room.occupant?]

theorem apply (index : Nat) (t : Turn) : Untouched room l w s (s.apply index t) := by
  -- a monitor puts at most a question on the stack, and that is no notice
  obtain ⟨hrooms, -, -, hstack⟩ := s.parts_apply index t
  refine of_rooms hrooms ?_
  rw [Site.underWay, hstack]
  cases t.pending <;> rfl

theorem resume (index : Nat) (p : Pending) (r : p.Reply) :
    Untouched room l w s (s.resume index p r) := by
  unfold Site.resume
  split
  · exact apply index _
  · exact refl s

theorem call (index : Nat) (c : Call) : Untouched room l w s (s.call index c) := by
  unfold Site.call
  split
  · exact apply index _
  · exact refl s

theorem tell (state : Registration) (target : RegistrationListener) :
    Untouched room l w s (s.tell state target) := by
  unfold Site.tell
  split
  · split
    · exact call _ _
    · exact refl s
  · exact of_rooms rfl rfl

theorem deliver (n : Notice) (target : RoomListener) :
    Untouched room l w s (s.deliver n target) := by
  unfold Site.deliver
  split
  · split
    · exact call _ _
    · exact refl s
  · exact of_rooms rfl rfl

end Untouched

/-! ## What a listener notices -/

/-- What a move does to somebody in a room, and to the notices about it that are on their way to a
    listener there. -/
inductive Hears (room : RoomRef) (l : RoomListener) (w : WorkerId) (s : Site) (m : Move)
    (s' : Site) : Prop where
  /-- Nothing. If it is a change of somebody, there is no such room. -/
  | nothing (told : s.told? l w m = none) (untouched : Untouched room l w s s')
    (silent : m.changes room w → s.isOpen room = false)
  /-- The listener is called with the next notice. -/
  | told (n : Notice) (told : s.told? l w m = some n)
    (underWay : s.underWay room l w = n :: s'.underWay room l w)
    (member : s'.member? room w = s.member? room w) (door : s'.isOpen room → s.isOpen room)
    (changes : m.changes room w = false)
  /-- The next to be introduced goes out to those who listen now. -/
  | introduced (n : Notice) (rest : List Notice) (told : s.told? l w m = none)
    (before : s.underWay room l w = n :: rest)
    (underWay : s'.underWay room l w =
      List.replicate ((s.roomAudience room).count l) n ++ rest)
    (member : s'.member? room w = s.member? room w) (door : s'.isOpen room → s.isOpen room)
    (changes : m.changes room w = false)
  /-- Somebody comes, goes or shows something new, and a notice of it is put before the others. -/
  | changed (n : Notice) (told : s.told? l w m = none)
    (tells : Notice.Tells (some n) (s'.member? room w))
    (underWay : s'.underWay room l w =
      List.replicate ((s.roomAudience room).count l) n ++ s.underWay room l w)
    (door : s'.isOpen room → s.isOpen room) (changes : m.changes room w)
  /-- The room is entered, and whoever is there is about to be introduced. -/
  | opened (told : s.told? l w m = none) (closed : s.isOpen room = false)
    (underWay : s'.underWay room l w =
      ((s.member? room w).map (Notice.mk .joined)).toList ++ s.underWay room l w)
    (member : s'.member? room w = s.member? room w) (changes : m.changes room w = false)

theorem Hears.of_untouched (told : s.told? l w m = none) (changes : m.changes room w = false)
    (untouched : Untouched room l w s s') : Hears room l w s m s' :=
  .nothing told untouched fun h => absurd h (by simp [changes])

/-! ### Notices that go out -/

/-- Something happens to a member of a room, of which a notice goes out. -/
theorem hears_happen {g : Room → Room × Notice} {id : WorkerId} (told : s.told? l w m = none)
    (alone : s.IsAlone room l) (distinct : ∀ r ∈ s.rooms, r.IsDistinct)
    (happens : ∀ r, other = room → Room.Happens r (g r).1 (g r).2)
    (audience : ∀ r, (g r).1.audience = r.audience) (about : ∀ r, (g r).2.occupant.id = id)
    (changes : m.changes room w = (other = room && id = w)) :
    Hears room l w s m (s.happen other g) := by
  unfold happen
  split
  · next r hr =>
    -- the notice goes out after the change, to those who listened before it
    have hplace :
        (s.changeRoom other fun _ => (g r).1).roomAudience other = s.roomAudience other := by
      simp [roomAudience, getElem?_changeRoom, hr, audience]
    simp only [notify, hplace]
    by_cases hother : other = room
    · subst hother
      have hhappens := happens r rfl
      have hdoor : (g r).1.isEntered = r.isEntered := by
        rw [hhappens.rest]
      by_cases hid : id = w
      · -- the notice is put on top, so it is before those that are on their way
        subst hid
        refine .changed (g r).2 told ?_ ?_ ?_ (by simp [changes])
        · have htells := hhappens.tells (distinct r (List.mem_of_getElem? hr))
          rw [about] at htells
          simpa [member?, push, getElem?_changeRoom, hr] using htells
        · simp [underWay, push, changeRoom, Frame.underWay, about]
        · simp [isOpen, push, getElem?_changeRoom, hr, hdoor]
      · -- it is about somebody else
        have hmember := hhappens.others w (by rw [about]; exact Ne.symm hid)
        exact .of_untouched told (by simp [changes, hid])
          (.trans _ (.replaceRoom hr fun _ => ⟨hmember, by simp [hdoor]⟩)
            (.push (by simp [Frame.underWay, about, hid])))
    · -- it is in another room, where the listener does not listen while that is entered
      exact .of_untouched told (by simp [changes, hother])
        (.trans _ (.changeRoom fun _ _ h => absurd h hother)
          (.push (Frame.underWay_delivering (alone other hother))))
  · next hr =>
    -- there is no such room, and so none that is entered
    refine .nothing told (.refl s) fun h => ?_
    have hother : other = room := by simp_all
    simp [isOpen, ← hother, hr]

/-! ### Rooms that are entered -/

/-- A room is entered, and who is there is about to be introduced. -/
structure Opened (room : RoomRef) (l : RoomListener) (w : WorkerId) (s s' : Site) : Prop where
  closed : s.isOpen room = false
  underWay : s'.underWay room l w =
    ((s.member? room w).map (Notice.mk .joined)).toList ++ s.underWay room l w
  member : s'.member? room w = s.member? room w

theorem Opened.of_untouched (h : Opened room l w s' s'') (h' : Untouched room l w s s')
    (door : s.isOpen room = s'.isOpen room) : Opened room l w s s'' :=
  ⟨door.trans h.closed, by rw [h.underWay, h'.underWay, h'.member], h.member.trans h'.member⟩

theorem Opened.hears (told : s.told? l w m = none) (changes : m.changes room w = false)
    (h : Opened room l w s s') : Hears room l w s m s' :=
  .opened told h.closed h.underWay h.member changes

/-- A room that does not let in is as it was. -/
theorem untouched_refused {r r' : Room} {refusal : Refusal}
    (hr : s.rooms[other.index]? = some r) (entry : r.enter = (r', .error refusal)) :
    Untouched room l w s (s.changeRoom other fun _ => r') := by
  unfold Room.enter at entry
  split at entry
  · cases entry
    exact .replaceRoom hr fun _ => ⟨rfl, id⟩
  · split at entry <;> cases entry

/-- A room that lets in is entered already, is another room, or is entered now. -/
theorem untouched_or_opened {r r' : Room} {os : List Occupant}
    (hr : s.rooms[other.index]? = some r) (distinct : r.IsDistinct)
    (entry : r.enter = (r', .ok os)) :
    Untouched room l w s ((s.changeRoom other fun _ => r').push (.introducing other os)) ∨
      Opened room l w s ((s.changeRoom other fun _ => r').push (.introducing other os)) := by
  unfold Room.enter at entry
  split at entry
  · cases entry
  · split at entry
    · next hentered =>
      -- nobody is introduced a second time
      cases entry
      exact .inl (.trans _ (.replaceRoom hr fun _ => ⟨rfl, id⟩)
        (.push (by simp [Frame.underWay])))
    · next hentered =>
      cases entry
      by_cases hother : other = room
      · -- no member is there twice, so one at most has the address
        subst hother
        refine .inr ⟨by simpa [isOpen, hr] using hentered, ?_, ?_⟩
        · have hfilter := Keyed.filter_eq_toList_find? distinct w
          simp [Site.underWay, push, changeRoom, Frame.underWay, member?, hr, Room.occupant?,
            hfilter, Option.toList_map]
        · simp [member?, push, getElem?_changeRoom, hr, Room.occupant?]
      · exact .inl (.trans _ (.changeRoom fun _ _ h => absurd h hother)
          (.push (by simp [Frame.underWay, hother])))

/-! ### Steps -/

/-- No answer to a question of a monitor is noticed, but that the room was entered. -/
theorem untouched_or_opened_answer (index : Nat) (p : Pending)
    (distinct : ∀ r ∈ s.rooms, r.IsDistinct) :
    Untouched room l w s (s.answer index none p) ∨ Opened room l w s (s.answer index none p) := by
  cases p with
  | subscribing | withdrawing _ | unsubscribing _ =>
    exact .inl (.of_rooms rfl rfl)
  | probing => exact .inl (.resume index _ _)
  | obtaining generation =>
    -- a room that is made is empty, and not entered
    left
    unfold answer
    dsimp only
    split
    · next connection _ _ =>
      exact Untouched.trans { s with connection } (.of_rooms rfl rfl) (.resume index _ _)
    · next connection _ =>
      split
      · exact Untouched.trans { s with connection } (.of_rooms rfl rfl)
          ((Untouched.provideRoom _).trans _ (.push rfl))
      · exact .of_rooms rfl rfl
  | listening generation place =>
    exact .inl (.trans (s.changeRoom place (·.listen s.nextListener (.monitor index generation)))
      (.changeRoom fun _ _ _ => ⟨rfl, id⟩) (.of_rooms rfl rfl))
  | entering generation seat =>
    unfold answer
    dsimp only
    split
    · next r hr =>
      split
      · next r' refusal hentry =>
        -- the monitor hears of the refusal at once
        exact .inl (.trans _ (untouched_refused hr hentry) (.resume index _ _))
      · next r' os hentry =>
        -- the frame that waits for the members to be introduced is not noticed
        let t := s.push (.replying index (.entering generation seat) (.ok ()))
        have hwait : Untouched room l w s t := .push rfl
        exact (untouched_or_opened (s := t) hr (distinct r (List.mem_of_getElem? hr)) hentry).imp
          (hwait.trans _) fun h => h.of_untouched hwait rfl
    · exact .inl (.refl s)
  -- a room that is left may not be entered any more, but nothing is told of it
  | retreating generation seat refusal | releasing seat parting =>
    exact .inl (.trans (s.changeRoom seat.room (·.unlisten seat.listener))
      (.changeRoom fun _ _ _ => ⟨rfl, id⟩) (.push rfl))
  | leaving seat parting =>
    exact .inl (.trans (s.changeRoom seat.room Room.leave) .leave (.push rfl))

section Step

variable {rest : List Frame}

/-- A listener is called with a notice. -/
theorem hears_delivering {target : RoomListener} {targets : List RoomListener}
    (stack : s.stack = .delivering (target :: targets) n :: rest) :
    Hears room l w s .work
      (({ s with stack := .delivering targets n :: rest } : Site).deliver n target) := by
  have hcalled : Untouched room l w { s with stack := .delivering targets n :: rest } _ :=
    .deliver n target
  -- the target comes off the list before it is called
  by_cases hl : target = l ∧ n.occupant.id = w
  · refine .told n (by simp [told?, stack, hl]) ?_ hcalled.member hcalled.door rfl
    rw [hcalled.underWay]
    simp [underWay, stack, Frame.underWay, hl, List.replicate_succ]
  · -- it is another listener, or a notice about somebody else
    have hcount : n.occupant.id = w → (target :: targets).count l = targets.count l :=
      fun hn => List.count_cons_of_ne fun heq => hl ⟨heq, hn⟩
    refine .of_untouched (by simp [told?, stack, hl]) rfl (.trans _ (.popped [_] stack ?_) hcalled)
    simp +contextual [Frame.underWay, hcount]

/-- A member is introduced. -/
theorem hears_introducing (alone : s.IsAlone room l) {o : Occupant} {waiting : List Occupant}
    (stack : s.stack = .introducing other (o :: waiting) :: rest) :
    Hears room l w s .work (({ s with stack := .introducing other waiting :: rest } : Site).push
      (.delivering (s.roomAudience other) ⟨.joined, o⟩)) := by
  have htold : s.told? l w .work = none := by simp [told?, stack]
  by_cases hother : other = room
  · subst hother
    by_cases ho : o.id = w
    · refine .introduced ⟨.joined, o⟩
        (({ s with stack := .introducing other waiting :: rest } : Site).underWay other l w)
        htold ?_ ?_ rfl id rfl
      · simp [underWay, stack, Frame.underWay, ho]
      · simp only [underWay, push, List.flatMap_cons, Frame.underWay, ho, if_true]
    · -- somebody else is introduced
      exact .of_untouched htold rfl (.trans _
        (.popped [.introducing other waiting] stack (by simp [Frame.underWay, ho]))
        (.push (by simp [Frame.underWay, ho])))
  · -- somebody is introduced elsewhere
    exact .of_untouched htold rfl (.trans _
      (.popped [.introducing other waiting] stack (by simp [Frame.underWay, hother]))
      (.push (Frame.underWay_delivering (alone other hother))))

/-- What a step does. -/
theorem hears_step (alone : s.IsAlone room l) (distinct : ∀ r ∈ s.rooms, r.IsDistinct) :
    Hears room l w s .work (s.step none) := by
  unfold step
  -- one case for each kind of innermost frame
  split
  · next hstack => exact .of_untouched (by simp [told?, hstack]) rfl (.refl s)
  · next index p rest hstack =>
    -- a question is answered: only the answer that lets in is noticed
    have htold : s.told? l w .work = none := by simp [told?, hstack]
    have hpopped : Untouched room l w s { s with stack := rest } := .popped [] hstack rfl
    rcases untouched_or_opened_answer (s := { s with stack := rest }) index p distinct with h | h
    · exact .of_untouched htold rfl (hpopped.trans _ h)
    · exact (h.of_untouched hpopped rfl).hears htold rfl
  · next index p r rest hstack =>
    rw [reply_none]
    exact .of_untouched (by simp [told?, hstack]) rfl
      (.trans _ (.popped [] hstack rfl) (.resume index p r))
  · next hstack => exact .of_untouched (by simp [told?, hstack]) rfl (.popped [] hstack rfl)
  -- the registration is told by frames of its own, which hold no notices
  · next target targets state rest hstack =>
    exact .of_untouched (by simp [told?, hstack]) rfl
      (.trans _ (.popped [.telling targets state] hstack rfl) (.tell state target))
  · next hstack =>
    exact .of_untouched (by simp [told?, hstack]) rfl
      (.popped [] hstack (by simp [Frame.underWay]))
  -- notices and members that are next
  · next hstack => exact hears_delivering hstack
  · next hstack =>
    exact .of_untouched (by simp [told?, hstack]) rfl
      (.popped [] hstack (by simp [Frame.underWay]))
  · next hstack => exact hears_introducing alone hstack
  · next hstack => exact .of_untouched (by simp [told?, hstack]) rfl (.popped [] hstack rfl)

end Step

/-- What a move does. -/
theorem hears_move (alone : s.IsAlone room l) (distinct : ∀ r ∈ s.rooms, r.IsDistinct)
    (plain : m.isPlain room) : Hears room l w s m (s.move m) := by
  -- calls and work go on at the monitors; what outsiders do is done to a room
  cases m with
  | work => exact hears_step alone distinct
  | call index c => exact .of_untouched rfl rfl (.call index c)
  | requestRoom name =>
    refine .of_untouched rfl rfl ?_
    simp only [move, requestRoom]
    split
    · exact .of_rooms rfl rfl
    · next connection _ =>
      exact Untouched.trans { s with connection } (.of_rooms rfl rfl) (.provideRoom name)
  | provideRoom name => exact .of_untouched rfl rfl (.provideRoom name)
  | arrive other id presence =>
    exact hears_happen rfl alone distinct (fun r _ => r.happens_arrive id presence) (fun _ => rfl)
      (fun _ => rfl) rfl
  | update other id presence =>
    exact hears_happen rfl alone distinct (fun r _ => r.happens_update id presence) (fun _ => rfl)
      (fun _ => rfl) rfl
  | depart other id kind =>
    -- what is called a departure must be one, or the listener could take it for something else
    refine hears_happen rfl alone distinct (fun r hother => r.happens_depart id ?_) (fun _ => rfl)
      (fun r => r.id_depart id kind) rfl
    simpa [Move.isPlain, hother] using plain
  | refuseNextEntry other refusal =>
    exact .of_untouched rfl rfl (.changeRoom fun _ _ _ => ⟨rfl, id⟩)
  | enter other =>
    simp only [move, enterRoom]
    split
    · next r hr =>
      split
      · next r' refusal hentry => exact .of_untouched rfl rfl (untouched_refused hr hentry)
      · next r' os hentry =>
        rcases untouched_or_opened hr (distinct r (List.mem_of_getElem? hr)) hentry with h | h
        · exact .of_untouched rfl rfl h
        · exact h.hears rfl rfl
    · exact .of_untouched rfl rfl (.refl s)
  | leave other => exact .of_untouched rfl rfl .leave
  | notify other n =>
    -- a notice of nothing, which may only be sent out in other rooms
    refine .of_untouched rfl rfl (.push (Frame.underWay_delivering (alone other ?_)))
    simpa [Move.isPlain] using plain
  -- listeners come and go without a notice
  | listenToRoom other tag =>
    exact .of_untouched rfl rfl (Untouched.trans s.takeListener.1 (.of_rooms rfl rfl)
      (.changeRoom fun _ _ _ => ⟨rfl, id⟩))
  | unlistenToRoom other id =>
    exact .of_untouched rfl rfl (.changeRoom fun _ _ _ => ⟨rfl, fun h => h⟩)
  | setState state =>
    exact .of_untouched rfl rfl
      (Untouched.trans { s with connection := s.connection.setState state } (.of_rooms rfl rfl)
        (.push rfl))
  | refuseNextRequest _ | listenToRegistration _ | unlistenToRegistration _ | drop _ =>
    exact .of_untouched rfl rfl (.of_rooms rfl rfl)

/-! ## What outsiders have heard -/

section Heard

variable {tag : Nat}

theorem heard_apply (s : Site) (index : Nat) (t : Turn) : (s.apply index t).heard = s.heard := by
  unfold apply
  cases t.pending with
  | none => rfl
  | some p => cases p <;> rfl

theorem heard_resume (s : Site) (index : Nat) (p : Pending) (r : p.Reply) :
    (s.resume index p r).heard = s.heard := by
  unfold resume
  split
  · exact heard_apply s index _
  · rfl

theorem heard_call (s : Site) (index : Nat) (c : Call) : (s.call index c).heard = s.heard := by
  unfold call
  split
  · exact heard_apply s index _
  · rfl

theorem heard_provideRoom (s : Site) (name : String) :
    (s.provideRoom name).1.heard = s.heard := by
  unfold provideRoom
  split <;> rfl

theorem heard_answer (s : Site) (index : Nat) (p : Pending) :
    (s.answer index none p).heard = s.heard := by
  cases p with
  | subscribing | withdrawing _ | unsubscribing _ | listening _ _ | retreating _ _ _
  | releasing _ _ | leaving _ _ => rfl
  | probing => exact heard_resume s index _ _
  | obtaining generation =>
    unfold answer
    dsimp only
    split
    · rw [heard_resume]
    · split
      · exact heard_provideRoom _ _
      · rfl
  -- also a refusal is told to the monitor alone
  | entering generation seat =>
    unfold answer
    dsimp only
    split
    · split
      · rw [heard_resume]
        rfl
      · rfl
    · rfl

theorem heard_happen (s : Site) (room : RoomRef) (g : Room → Room × Notice) :
    (s.happen room g).heard = s.heard := by
  unfold happen
  split <;> rfl

/-- The notice about somebody that an outsider has heard. -/
def notice? (tag : Nat) (w : WorkerId) : Heard → Option Notice
  | .notice other n => if other = tag ∧ n.occupant.id = w then some n else none
  | .state _ _ => none

theorem heard_move (s : Site) (m : Move) :
    (s.move m).heard.filterMap (notice? tag w) =
      s.heard.filterMap (notice? tag w) ++ (s.told? (.outsider tag) w m).toList := by
  cases m with
  | work =>
    simp only [move]
    unfold step
    -- what an outsider hears is written down in the same step in which it is called
    split
    · next hstack => simp [told?, hstack]
    · next index p rest hstack => simp [told?, hstack, heard_answer]
    · next index p r rest hstack => simp [told?, hstack, reply_none, heard_resume]
    · next hstack => simp [told?, hstack]
    · next target targets state rest hstack =>
      cases target with
      | monitor index =>
        -- a monitor that is called writes nothing down here
        simp only [told?, hstack, tell]
        split <;> simp [heard_call]
      | outsider other => simp [told?, hstack, tell, push, notice?]
    · next hstack => simp [told?, hstack]
    · next target targets n rest hstack =>
      cases target with
      | monitor index generation =>
        simp only [told?, hstack, deliver]
        split <;> simp [heard_call]
      | outsider other =>
        -- it counts if the listener is the one in question, and so is whom it is about
        simp only [told?, hstack, deliver, push, List.filterMap_append, RoomListener.outsider.injEq]
        by_cases hl : other = tag ∧ n.occupant.id = w <;> simp [notice?, hl]
    · next hstack => simp [told?, hstack]
    · next hstack => simp [told?, hstack, push]
    · next hstack => simp [told?, hstack]
  -- nobody is called in any other move: what it brings about is worked on later
  | call index c => simp [move, told?, heard_call]
  | requestRoom name =>
    simp only [move, requestRoom]
    split <;> simp [told?, heard_provideRoom]
  | provideRoom name => simp [move, told?, heard_provideRoom]
  | arrive _ _ _ | update _ _ _ | depart _ _ _ => simp [move, told?, heard_happen]
  | enter room =>
    simp only [move, enterRoom, told?, Option.toList_none, List.append_nil]
    split
    · split <;> rfl
    · rfl
  | setState _ | refuseNextRequest _ | notify _ _ | refuseNextEntry _ _ | leave _
  | listenToRegistration _ | listenToRoom _ _ | unlistenToRegistration _ | unlistenToRoom _ _
  | drop _ => exact (List.append_nil _).symm

theorem heard_after (s : Site) (ms : List Move) :
    (s.after ms).heard.filterMap (notice? tag w) =
      s.heard.filterMap (notice? tag w) ++ s.told (.outsider tag) w ms := by
  induction ms generalizing s with
  | nil => exact (List.append_nil _).symm
  | cons m ms ih =>
    show ((s.move m).after ms).heard.filterMap _ = _
    rw [ih, heard_move, told, List.append_assoc]

end Heard

end Site

end WorkerRoster
