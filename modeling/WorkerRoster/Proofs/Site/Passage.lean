import WorkerRoster.Proofs.Site.Quiet
import WorkerRoster.Proofs.Turn

/-!
# Through the Door of a Room

A monitor at a site goes in and out of its room, on behalf of one attempt or another. The door is
the same for all of them: the room is entered or not, whoever went through it last. Here it is shown
what a monitor that is at rest can say about the room: it is in the room if and only if the room is
entered, unless the last to go through the door was a leave on behalf of another seat than its own.

That can happen. An attempt that is no longer wanted is let in, and has to leave again; if it does
so after a newer attempt has been let in, it takes the newer one out of the room.

## Main statements

- `Site.Fits.move`: what holds between a monitor and its room is kept by every move
- `Site.Watched.present_iff_isEntered`: a monitor at rest is where the room is entered, with the one
  exception
-/

set_option autoImplicit false

namespace WorkerRoster

/-! ## Passages -/

/-- A monitor goes through the door of its room. -/
inductive Passage where
  | entered (seat : Seat)
  | left (seat : Seat)
  deriving DecidableEq, Repr

namespace Passage

/-- The seat that was let in. -/
def entered? : Passage → Option Seat
  | .entered seat => some seat
  | .left _ => none

/-- The seat that was given up. -/
def left? : Passage → Option Seat
  | .left seat => some seat
  | .entered _ => none

end Passage

/-! ## Frames of calls -/

namespace Frame

/-- The seat that was let in, and that has yet to be given up. -/
def owed : Frame → List Seat
  | .asking _ p => p.vacated?.toList ++ p.occupied?.toList
  | .replying _ p r => (Cue.reply p r).entered?.toList ++ p.occupied?.toList
  | _ => []

/-- The seat that has yet to be let in. -/
def expected : Frame → List Seat
  | .asking _ p => p.held?.toList
  | .replying _ p r => (Cue.reply p r).added?.toList
  | _ => []

/-- The room that a call knows. -/
def places : Frame → List RoomRef
  | .asking _ p => p.room?.toList
  | .replying _ p r => (Cue.reply p r).room?.toList
  | _ => []

end Frame

namespace Site

/-- How a monitor goes through the door in a move. It does when its question reaches the room,
    unless the room refuses to let it in. -/
def passage? (s : Site) : Move → Option Passage
  | .work =>
    match s.stack with
    | .asking _ (.entering _ seat) :: _ =>
      match s.rooms[seat.room.index]? with
      | some room => if room.nextRefusal.isNone then some (.entered seat) else none
      | none => none
    | .asking _ (.leaving seat _) :: _ => some (.left seat)
    | _ => none
  | _ => none

/-- A site with one monitor that watches a room, and its passages through the door. Nobody else goes
    through this door. -/
inductive Watched (name : String) : Site → List Passage → Prop where
  | start (isUp : Bool) :
    Watched name { connection := { isUp }, monitors := [{ monitor := { room := name } }] } []
  | move {s : Site} {ps : List Passage} (watched : Watched name s ps) (m : Move)
    (sparing : s.isSparing name m) : Watched name (s.move m) (ps ++ (s.passage? m).toList)

/-! ## What is under way -/

/-- The seats of the monitors that are in their rooms. -/
def seats (s : Site) : List Seat :=
  s.watchers.filterMap (·.phase.seat?)

/-- The seats that were let in, and that somebody has yet to give up. -/
def charges (s : Site) : List Seat :=
  s.tasks.flatMap Frame.owed ++ s.seats

/-- The seats that have yet to be let in. -/
def expected (s : Site) : List Seat :=
  s.tasks.flatMap Frame.expected

/-- The rooms that monitors and their calls know. -/
def places (s : Site) : List RoomRef :=
  s.tasks.flatMap Frame.places ++ s.seats.map (·.room)

/-- Seats that are all different, and have numbers that were given out. -/
structure IsFresh (seats : List Seat) (next : ListenerId) : Prop where
  nodup : seats.Nodup
  given : ∀ seat ∈ seats, seat.listener.number < next.number

/-- What holds between a monitor, its passages through the door, and its room. -/
structure Fits (name : String) (s : Site) (ps : List Passage) : Prop where
  alone : ∃ m, s.watchers = [m] ∧ m.room = name
  /-- What is under way belongs to the monitor. -/
  own : ∀ f ∈ s.tasks, Frame.isOf 0 f
  /-- There is only one room. -/
  placed : ∀ room ∈ s.places, s.findRoom? name = some room
  /-- Who was let in has left, or has to. -/
  balance : (ps.filterMap Passage.entered?).Perm (ps.filterMap Passage.left? ++ s.charges)
  /-- No seat is let in twice. -/
  fresh : IsFresh (ps.filterMap Passage.entered? ++ s.expected) s.nextListener
  /-- The last passage decides whether the room is entered. -/
  door : s.isEntered name = true ↔ ∃ seat, ps.getLast? = some (.entered seat)
  /-- Who was the last to be let in has yet to leave. -/
  held : ∀ seat, ps.getLast? = some (.entered seat) → seat ∈ s.charges

variable {name : String} {s s' : Site} {ps : List Passage}

section Push

variable {f : Frame}

theorem tasks_push (hf : f.isTask) : (s.push f).tasks = f :: s.tasks :=
  List.filter_cons_of_pos hf

theorem charges_push (hf : f.isTask) : (s.push f).charges = f.owed ++ s.charges := by
  rw [charges, tasks_push hf, List.flatMap_cons, List.append_assoc]
  rfl

theorem expected_push (hf : f.isTask) : (s.push f).expected = f.expected ++ s.expected := by
  rw [expected, tasks_push hf, List.flatMap_cons]
  rfl

theorem places_push (hf : f.isTask) : (s.push f).places = f.places ++ s.places := by
  rw [places, tasks_push hf, List.flatMap_cons, List.append_assoc]
  rfl

/-- Whose call the innermost frame belongs to. -/
theorem Fits.owner (h : Fits name (s.push f) ps) (hf : f.isTask) : Frame.isOf 0 f :=
  h.own f (tasks_push hf ▸ .head _)

/-- What room the innermost frame knows. -/
theorem Fits.place (h : Fits name (s.push f) ps) (hf : f.isTask) {room : RoomRef}
    (hroom : room ∈ f.places) : s.findRoom? name = some room :=
  h.placed room (places_push hf ▸ List.mem_append_left _ hroom)

end Push

/-! ## What is kept -/

/-- What fits goes on fitting where nobody goes through the door: if the same seats are owed, and
    no place is known that is not the room. -/
theorem Fits.of_change {m : Monitor} (h : Fits name s ps) (watchers : s'.watchers = [m])
    (room : m.room = name) (own : ∀ f ∈ s'.tasks, Frame.isOf 0 f)
    (places : ∀ r ∈ s'.places, r ∈ s.places ∨ s'.findRoom? name = some r)
    (place : ∀ r, s.findRoom? name = some r → s'.findRoom? name = some r)
    (charges : s.charges.Perm s'.charges)
    (fresh : IsFresh (ps.filterMap Passage.entered? ++ s'.expected) s'.nextListener)
    (door : s'.isEntered name = s.isEntered name) : Fits name s' ps where
  alone := ⟨m, watchers, room⟩
  own := own
  placed r hr := (places r hr).elim (fun hr => place r (h.placed r hr)) id
  balance := h.balance.trans (charges.append_left _)
  fresh := fresh
  door := by rw [door, h.door]
  held seat hlast := charges.subset (h.held seat hlast)

/-- What fits goes on fitting where nothing happens to it. -/
theorem Fits.quiet (h : Fits name s ps) (hquiet : Quiet name s s') : Fits name s' ps := by
  obtain ⟨m, hm, hroom⟩ := h.alone
  have hseats : s'.seats = s.seats := by rw [seats, seats, hquiet.watchers]
  refine h.of_change (hquiet.watchers.trans hm) hroom ?_ ?_ hquiet.place ?_ ?_ hquiet.door
  · rw [hquiet.tasks]
    exact h.own
  · intro r hr
    rw [places, hquiet.tasks, hseats] at hr
    exact .inl hr
  · rw [charges, charges, hquiet.tasks, hseats]
  · rw [expected, hquiet.tasks]
    exact ⟨h.fresh.nodup, fun seat hseat =>
      Nat.lt_of_lt_of_le (h.fresh.given seat hseat) hquiet.numbers⟩

/-! ## Turns -/

/-- The frame that a turn takes the place of, in the call of the only monitor. -/
def cueFrame? : Cue → Option Frame
  | .call _ => none
  | .reply p r => some (.replying 0 p r)

/-- What the frame that a turn takes the place of owes, expects and knows. -/
theorem parts_cueFrame? (cue : Cue) :
    (cueFrame? cue).toList.flatMap Frame.owed =
        cue.entered?.toList ++ (cue.answered.bind Pending.occupied?).toList ∧
      (cueFrame? cue).toList.flatMap Frame.expected = cue.added?.toList ∧
      (cueFrame? cue).toList.flatMap Frame.places = cue.room?.toList := by
  cases cue with
  | call _ => exact ⟨rfl, rfl, rfl⟩
  | reply p r => exact ⟨List.append_nil _, List.append_nil _, List.append_nil _⟩

/-- What the frame that a turn ends with owes, expects and knows. -/
theorem parts_asking (p : Option Pending) (index : Nat) :
    (p.map (Frame.asking index)).toList.flatMap Frame.owed =
        (p.bind Pending.vacated?).toList ++ (p.bind Pending.occupied?).toList ∧
      (p.map (Frame.asking index)).toList.flatMap Frame.expected =
        (p.bind Pending.held?).toList ∧
      (p.map (Frame.asking index)).toList.flatMap Frame.places =
        (p.bind Pending.room?).toList := by
  cases p with
  | none => exact ⟨rfl, rfl, rfl⟩
  | some p => exact ⟨List.append_nil _, List.append_nil _, List.append_nil _⟩

theorem tasks_apply (s : Site) (index : Nat) (t : Turn) :
    (s.apply index t).tasks = (t.pending.map (Frame.asking index)).toList ++ s.tasks := by
  obtain ⟨-, -, -, hstack⟩ := s.parts_apply index t
  rw [tasks, hstack, List.filter_append]
  cases t.pending <;> rfl

theorem watchers_apply (t : Turn) {m : Monitor} (h : s.watchers = [m]) :
    (s.apply 0 t).watchers = [t.monitor] := by
  rw [watchers_apply_eq, h, List.set_cons_zero]

theorem seats_of_watchers {m : Monitor} (h : s.watchers = [m]) :
    s.seats = m.phase.seat?.toList := by
  rw [seats, h]
  cases hseat : m.phase.seat? <;> simp [hseat]

/-- A turn keeps what fits. -/
theorem Fits.apply (cue : Cue) {m : Monitor}
    (h : Fits name { s with stack := (cueFrame? cue).toList ++ s.stack } ps)
    (hm : s.watchers = [m]) : Fits name (s.apply 0 (m.turn cue)) ps := by
  -- the site before the turn, with the frame that the turn takes the place of
  generalize hs₀ : { s with stack := (cueFrame? cue).toList ++ s.stack } = s₀ at h
  have hm₀ : s₀.watchers = [m] := by rw [← hs₀]; exact hm
  have htasks₀ : s₀.tasks = (cueFrame? cue).toList ++ s.tasks := by
    rw [← hs₀, tasks, List.filter_append]
    cases cue <;> rfl
  have hseats₀ := seats_of_watchers hm₀
  obtain ⟨howed₀, hexpected₀, hplaces₀⟩ := parts_cueFrame? cue
  -- the site after it
  have htasks := s.tasks_apply 0 (m.turn cue)
  have hwatchers := watchers_apply (m.turn cue) hm
  have hseats := seats_of_watchers hwatchers
  obtain ⟨howed, hexpected, hplaces⟩ := parts_asking (m.turn cue).pending 0
  obtain ⟨hrooms, hnext, -, -⟩ := s.parts_apply 0 (m.turn cue)
  replace hrooms : (s.apply 0 (m.turn cue)).rooms = s₀.rooms := by rw [hrooms, ← hs₀]
  replace hnext : (s.apply 0 (m.turn cue)).nextListener = s₀.nextListener := by rw [hnext, ← hs₀]
  obtain ⟨m', hm', hroom⟩ := h.alone
  cases hm₀.symm.trans hm'
  refine h.of_change hwatchers ((m.room_turn cue).trans hroom) ?own ?places ?place ?charges ?fresh
    (isEntered_of_rooms hrooms)
  case own =>
    intro f hf
    rw [htasks] at hf
    rcases List.mem_append.1 hf with hf | hf
    · obtain ⟨p, -, rfl⟩ := Option.map_eq_some_iff.1 (Option.mem_toList.1 hf)
      simp [Frame.isOf]
    · exact h.own f (htasks₀ ▸ List.mem_append_right _ hf)
  case places =>
    -- a turn knows no rooms but those it was given
    intro r hr
    have hknown := m.rooms_turn cue r
    simp only [Site.places, htasks, htasks₀, hseats, hseats₀, List.flatMap_append, hplaces,
      hplaces₀, ← Option.toList_map, List.mem_append, Option.mem_toList] at hr ⊢
    grind
  case place => exact fun r hr => (findRoom?_of_rooms hrooms).trans hr
  case charges =>
    -- a turn loses no seat, and makes none up
    have hseats_turn := (m.seats_turn cue).2
    rw [List.perm_iff_count] at hseats_turn ⊢
    intro seat
    have hcount := hseats_turn seat
    simp only [Site.charges, htasks, htasks₀, hseats, hseats₀, List.flatMap_append, howed, howed₀,
      List.count_append] at hcount ⊢
    omega
  case fresh =>
    have hsame : (s.apply 0 (m.turn cue)).expected = s₀.expected := by
      rw [Site.expected, Site.expected, htasks, htasks₀, List.flatMap_append, List.flatMap_append,
        hexpected, hexpected₀, m.held?_turn]
    rw [hsame, hnext]
    exact h.fresh

/-- A call keeps what fits. -/
theorem Fits.call (h : Fits name s ps) (index : Nat) (c : Call) :
    Fits name (s.call index c) ps := by
  obtain ⟨m, hm, -⟩ := h.alone
  obtain ⟨post, hpost, rfl⟩ := List.map_eq_singleton_iff.1 hm
  unfold Site.call
  rw [hpost]
  cases index with
  | zero => exact Fits.apply (.call c) h hm
  -- there is no other monitor
  | succ index => exact h

/-- A reply keeps what fits. -/
theorem Fits.resume {index : Nat} {p : Pending} {r : p.Reply}
    (h : Fits name (s.push (.replying index p r)) ps) : Fits name (s.resume index p r) ps := by
  obtain ⟨m, hm, -⟩ := h.alone
  replace hm : s.watchers = [m] := hm
  obtain ⟨post, hpost, rfl⟩ := List.map_eq_singleton_iff.1 hm
  have hindex : index = 0 := by simpa [Frame.isOf] using h.owner rfl
  subst hindex
  unfold Site.resume
  rw [hpost]
  exact Fits.apply (.reply p r) h hm

/-! ## Answers -/

section Answers

variable {index : Nat} {p : Pending} {f f' : Frame} {ps' : List Passage}

/-- The innermost frame is exchanged for another one of the same call. What the call owes and what
    it expects may be different then, and so may be the passages. -/
theorem Fits.exchange (h : Fits name (s.push f) ps) (hf : f.isTask) (hf' : f'.isTask)
    (owner : Frame.isOf 0 f → Frame.isOf 0 f') (watchers : s'.watchers = s.watchers)
    (tasks : s'.tasks = s.tasks)
    (place : ∀ room, s.findRoom? name = some room → s'.findRoom? name = some room)
    (knows : ∀ room ∈ f'.places, room ∈ f.places ∨ s'.findRoom? name = some room)
    (balance : (ps'.filterMap Passage.entered?).Perm
      (ps'.filterMap Passage.left? ++ (f'.owed ++ s.charges)))
    (fresh : IsFresh (ps'.filterMap Passage.entered? ++ (f'.expected ++ s.expected))
      s'.nextListener)
    (door : s'.isEntered name = true ↔ ∃ seat, ps'.getLast? = some (.entered seat))
    (held : ∀ seat, ps'.getLast? = some (.entered seat) → seat ∈ f'.owed ++ s.charges) :
    Fits name (s'.push f') ps' := by
  -- what is owed, expected and known differs in the one frame only
  have hseats : s'.seats = s.seats := by rw [seats, seats, watchers]
  have hcharges : (s'.push f').charges = f'.owed ++ s.charges := by
    rw [charges_push hf', charges, charges, tasks, hseats]
  have hexpected : (s'.push f').expected = f'.expected ++ s.expected := by
    rw [expected_push hf', expected, expected, tasks]
  have hplaces : (s'.push f').places = f'.places ++ s.places := by
    rw [places_push hf', places, places, tasks, hseats]
  refine ⟨?alone, ?own, ?placed, hcharges ▸ balance, hexpected ▸ fresh, door, hcharges ▸ held⟩
  case alone =>
    obtain ⟨m, hm, hroom⟩ := h.alone
    exact ⟨m, watchers.trans hm, hroom⟩
  case own =>
    have hown := h.own
    rw [tasks_push hf] at hown
    rw [tasks_push hf', tasks]
    intro g hg
    rcases List.mem_cons.1 hg with rfl | hg
    · exact owner (hown f (.head _))
    · exact hown g (.tail _ hg)
  case placed =>
    -- a place that the new frame knows was known to the old one, or has been found
    have hplaced := h.placed
    rw [places_push hf] at hplaced
    rw [hplaces]
    intro room hroom
    rcases List.mem_append.1 hroom with hroom | hroom
    · rcases knows room hroom with hroom | hfound
      · exact place room (hplaced room (List.mem_append_left _ hroom))
      · exact hfound
    · exact place room (hplaced room (List.mem_append_right _ hroom))

/-- An answer keeps what fits, if it makes no seat and takes nobody through the door. -/
theorem Fits.answered (h : Fits name (s.push (.asking index p)) ps) (s' : Site)
    (hquiet : Quiet name s s') (r : p.Reply)
    (owed : (Frame.replying index p r).owed = (Frame.asking index p).owed)
    (expects : (Frame.replying index p r).expected.Sublist (Frame.asking index p).expected)
    (knows : ∀ room ∈ (Frame.replying index p r).places,
      room ∈ (Frame.asking index p).places ∨ s'.findRoom? name = some room) :
    Fits name (s'.push (.replying index p r)) ps := by
  have hbalance := h.balance
  have hfresh := h.fresh
  have hheld := h.held
  rw [charges_push rfl, ← owed] at hbalance hheld
  rw [expected_push rfl] at hfresh
  refine h.exchange rfl rfl id hquiet.watchers hquiet.tasks hquiet.place knows hbalance ?fresh ?door
    hheld
  case fresh =>
    have hsub := (List.Sublist.refl (ps.filterMap Passage.entered?)).append
      (expects.append (.refl s.expected))
    exact ⟨hsub.nodup hfresh.nodup, fun seat hseat =>
      Nat.lt_of_lt_of_le (hfresh.given seat (hsub.subset hseat)) hquiet.numbers⟩
  case door =>
    rw [hquiet.door]
    exact h.door

/-- An attempt that gets the number of its listener has a seat that nobody had. -/
theorem Fits.listened {generation : UInt64} {room : RoomRef}
    (h : Fits name (s.push (.asking index (.listening generation room))) ps)
    (l : ListenerId × RoomListener) :
    Fits name ((s.takeListener.1.changeRoom room fun r => r.listen l.1 l.2).push
      (.replying index (.listening generation room) s.nextListener)) ps := by
  have hquiet : Quiet name s (s.takeListener.1.changeRoom room fun r => r.listen l.1 l.2) :=
    Quiet.trans s.takeListener.1 (.of_rooms rfl rfl rfl (Nat.le_succ _))
      (.changeRoom fun _ _ => ⟨rfl, rfl⟩)
  have hbalance := h.balance
  have hfresh := h.fresh
  have hheld := h.held
  rw [charges_push rfl] at hbalance hheld
  rw [expected_push rfl] at hfresh
  refine h.exchange rfl rfl id hquiet.watchers hquiet.tasks hquiet.place
    (fun _ hknown => .inl hknown) hbalance ?fresh ?door hheld
  case fresh =>
    -- the number is one that no seat has so far
    have hnew : ∀ seat ∈ ps.filterMap Passage.entered? ++ s.expected,
        seat ≠ ⟨room, s.nextListener⟩ := by
      rintro _ hseat rfl
      exact Nat.lt_irrefl _ (hfresh.given _ hseat)
    have hperm : (ps.filterMap Passage.entered? ++
        ((⟨room, s.nextListener⟩ : Seat) :: s.expected)).Perm
        (⟨room, s.nextListener⟩ :: (ps.filterMap Passage.entered? ++ s.expected)) :=
      List.perm_middle
    refine ⟨hperm.nodup_iff.2 (List.nodup_cons.2 ⟨fun hseat => hnew _ hseat rfl, hfresh.nodup⟩), ?_⟩
    intro seat hseat
    rcases List.mem_cons.1 (hperm.subset hseat) with rfl | hseat
    · exact Nat.lt_succ_self _
    · exact Nat.lt_succ_of_lt (hfresh.given seat hseat)
  case door =>
    rw [hquiet.door]
    exact h.door

/-- An attempt that is let in owes a leave. -/
theorem Fits.entered {generation : UInt64} {seat : Seat} {room : Room}
    (h : Fits name (s.push (.asking index (.entering generation seat))) ps)
    (hroom : s.rooms[seat.room.index]? = some room) (hrefusal : room.nextRefusal = none) :
    Fits name ((s.changeRoom seat.room fun _ => room.enter.1).push
      (.replying index (.entering generation seat) (.ok ()))) (ps ++ [.entered seat]) := by
  have hplace : s.findRoom? name = some seat.room := h.place rfl (.head _)
  have hname : ∀ r, s.rooms[seat.room.index]? = some r → room.enter.1.name = r.name := by
    intro r hr
    -- the room is there once
    rw [hroom] at hr
    cases hr
    exact room.name_enter
  refine h.exchange rfl rfl id rfl rfl ?place (fun _ hknown => .inl hknown) ?balance ?fresh ?door
    ?held
  case place =>
    intro r hr
    rw [findRoom?_changeRoom hname]
    exact hr
  case balance =>
    have hbalance := h.balance.append_right [seat]
    rw [charges_push rfl, List.append_assoc] at hbalance
    rw [List.filterMap_append, List.filterMap_append]
    refine hbalance.trans ?_
    show (_ ++ (s.charges ++ [seat])).Perm (_ ++ [] ++ ([seat] ++ s.charges))
    rw [List.append_nil]
    exact List.perm_append_comm.append_left _
  case fresh =>
    have hfresh := h.fresh
    rw [expected_push rfl] at hfresh
    rw [List.filterMap_append, List.append_assoc]
    exact hfresh
  case door =>
    have hentered : (s.changeRoom seat.room fun _ => room.enter.1).isEntered name = true := by
      rw [isEntered_changeRoom hname, if_pos hplace, hroom]
      exact room.isEntered_enter hrefusal
    simp [hentered]
  case held =>
    intro x hx
    rw [List.getLast?_concat] at hx
    cases hx
    exact .head _

/-- A seat that is given up is owed no more. -/
theorem Fits.left {seat : Seat} {parting : Parting}
    (h : Fits name (s.push (.asking index (.leaving seat parting))) ps) :
    Fits name ((s.changeRoom seat.room Room.leave).push
      (.replying index (.leaving seat parting) ())) (ps ++ [.left seat]) := by
  have hplace : s.findRoom? name = some seat.room := h.place rfl (.head _)
  refine h.exchange rfl rfl id rfl rfl ?place (fun _ hknown => .inl hknown) ?balance ?fresh ?door
    ?held
  case place =>
    intro r hr
    rw [findRoom?_changeRoom fun r _ => r.name_leave]
    exact hr
  case balance =>
    have hbalance := h.balance
    rw [charges_push rfl] at hbalance
    rw [List.filterMap_append, List.filterMap_append, List.append_assoc]
    show (_ ++ []).Perm _
    rw [List.append_nil]
    exact hbalance
  case fresh =>
    have hfresh := h.fresh
    rw [expected_push rfl] at hfresh
    rw [List.filterMap_append]
    show IsFresh ((_ ++ []) ++ _) _
    rw [List.append_nil]
    exact hfresh
  case door =>
    -- the seat is in the room, so that is the room that is left
    have hleft : (s.changeRoom seat.room Room.leave).isEntered name = false := by
      rw [isEntered_changeRoom fun r _ => r.name_leave, if_pos hplace]
      cases s.rooms[seat.room.index]? with
      | none => rfl
      | some r => exact r.isEntered_leave
    simp [hleft]
  case held =>
    intro x hx
    rw [List.getLast?_concat] at hx
    cases hx

end Answers

/-! ## Work -/

theorem Fits.without {o : Option Passage} (hnone : o = none) (h : Fits name s ps) :
    Fits name s (ps ++ o.toList) := by
  rw [hnone, Option.toList_none, List.append_nil]
  exact h

/-- A new state that is told keeps what fits. -/
theorem Fits.tell (h : Fits name s ps) (state : Registration) (l : RegistrationListener) :
    Fits name (s.tell state l) ps := by
  cases l with
  | monitor index =>
    unfold Site.tell
    dsimp only
    split
    · exact h.call index (.registration state)
    · exact h
  | outsider tag =>
    exact h.quiet (Quiet.trans { s with heard := s.heard ++ [.state tag state] }
      (.of_rooms rfl rfl rfl (Nat.le_refl _)) (.push rfl))

/-- A notice that is delivered keeps what fits. -/
theorem Fits.deliver (h : Fits name s ps) (n : Notice) (l : RoomListener) :
    Fits name (s.deliver n l) ps := by
  cases l with
  | monitor index generation =>
    unfold Site.deliver
    dsimp only
    split
    · exact h.call index (.notice generation n)
    · exact h
  | outsider tag =>
    exact h.quiet (Quiet.trans { s with heard := s.heard ++ [.notice tag n] }
      (.of_rooms rfl rfl rfl (Nat.le_refl _)) (.push rfl))

/-- The answer to a request for a room keeps what fits. -/
theorem Fits.obtained {index : Nat} {generation : UInt64}
    (h : Fits name (s.push (.asking index (.obtaining generation))) ps) :
    Fits name (s.answer index none (.obtaining generation)) ps := by
  obtain ⟨m, hm, hroom⟩ := h.alone
  replace hm : s.watchers = [m] := hm
  obtain ⟨post, hpost, rfl⟩ := List.map_eq_singleton_iff.1 hm
  have hindex : index = 0 := by simpa [Frame.isOf] using h.owner rfl
  subst hindex
  unfold Site.answer
  dsimp only
  split
  · next connection refusal _ =>
    refine Fits.resume (h.answered { s with connection } (.of_rooms rfl rfl rfl (Nat.le_refl _))
      (.error refusal) rfl (.refl _) ?_)
    exact fun _ hknown => .inl hknown
  · next connection _ =>
    have hget : s.monitors[0]? = some post := by rw [hpost]; rfl
    rw [hget]
    dsimp only
    subst hroom
    have hquiet : Quiet post.monitor.room s
        (({ s with connection } : Site).provideRoom post.monitor.room).1 :=
      Quiet.trans { s with connection } (.of_rooms rfl rfl rfl (Nat.le_refl _))
        (.provideRoom _)
    refine h.answered _ hquiet (.ok _) rfl (.refl _) ?_
    intro room hknown
    -- the room that is handed out is the one of the name
    rw [List.mem_singleton.1 hknown]
    exact .inr (findRoom?_provided _ _)

/-- The answer to an attempt to enter keeps what fits, together with the passage if the attempt is
    let in. -/
theorem Fits.admitted {index : Nat} {generation : UInt64} {seat : Seat}
    (h : Fits name (s.push (.asking index (.entering generation seat))) ps) :
    Fits name (s.answer index none (.entering generation seat))
      (ps ++ ((s.push (.asking index (.entering generation seat))).passage? .work).toList) := by
  have hplace : s.findRoom? name = some seat.room := h.place rfl (.head _)
  obtain ⟨room, hroom⟩ := exists_of_findRoom? hplace
  simp only [Site.answer, passage?, push, hroom]
  cases hrefusal : room.nextRefusal with
  | some refusal =>
    -- the refusal is used up, and the reply follows at once
    have hentry : room.enter = ({ room with nextRefusal := none }, .error refusal) := by
      simp [Room.enter, hrefusal]
    rw [hentry]
    simp only [Option.isNone_some, Bool.false_eq_true, if_false, Option.toList_none,
      List.append_nil]
    have hquiet : Quiet name s
        (s.changeRoom seat.room fun _ => { room with nextRefusal := none }) := by
      refine .changeRoom fun r hr => ?_
      rw [hroom] at hr
      cases hr
      exact ⟨rfl, rfl⟩
    refine Fits.resume (h.answered _ hquiet (.error refusal) rfl (List.nil_sublist _) ?_)
    exact fun _ hknown => .inl hknown
  | none =>
    obtain ⟨occupants, hentry⟩ : ∃ occupants, room.enter = (room.enter.1, .ok occupants) := by
      unfold Room.enter
      rw [hrefusal]
      dsimp only
      split <;> exact ⟨_, rfl⟩
    rw [hentry]
    -- the members are introduced before the reply
    exact (h.entered hroom hrefusal).quiet (.push rfl)

/-- The answer to a question keeps what fits, together with the passage that it is. -/
theorem Fits.answer {index : Nat} {p : Pending} (h : Fits name (s.push (.asking index p)) ps) :
    Fits name (s.answer index none p)
      (ps ++ ((s.push (.asking index p)).passage? .work).toList) := by
  cases p with
  | entering generation seat => exact h.admitted
  | leaving seat parting => exact h.left
  -- every other answer is no passage
  | subscribing =>
    refine .without rfl ?_
    exact h.answered
      { s.takeListener.1 with
        connection := s.connection.listen s.nextListener (.monitor index) }
      (.of_rooms rfl rfl rfl (Nat.le_succ _)) s.nextListener rfl (.refl _)
      fun _ hknown => .inl hknown
  | withdrawing id | unsubscribing id =>
    refine .without rfl ?_
    exact h.answered { s with connection := s.connection.unlisten id }
      (.of_rooms rfl rfl rfl (Nat.le_refl _)) () rfl (.refl _) fun _ hknown => .inl hknown
  | probing =>
    refine .without rfl ?_
    exact Fits.resume (h.answered s (.refl s) s.connection.isUp rfl (.refl _)
      fun _ hknown => .inl hknown)
  | obtaining generation =>
    refine .without rfl ?_
    exact h.obtained
  | listening generation room =>
    refine .without rfl ?_
    exact h.listened (s.nextListener, .monitor index generation)
  | retreating generation seat refusal =>
    refine .without rfl ?_
    exact h.answered (s.changeRoom seat.room (·.unlisten seat.listener))
      (.changeRoom fun _ _ => ⟨rfl, rfl⟩) () rfl (.refl _) fun _ hknown => .inl hknown
  | releasing seat parting =>
    refine .without rfl ?_
    exact h.answered (s.changeRoom seat.room (·.unlisten seat.listener))
      (.changeRoom fun _ _ => ⟨rfl, rfl⟩) () rfl (.refl _) fun _ hknown => .inl hknown

/-- Work on the innermost frame keeps what fits, together with the passage that it is. -/
theorem Fits.work (h : Fits name s ps) :
    Fits name (s.step none) (ps ++ (s.passage? .work).toList) := by
  cases hstack : s.stack with
  | nil =>
    have hstep : s.step none = s := by simp [step, hstack]
    refine .without (by simp [passage?, hstack]) ?_
    rw [hstep]
    exact h
  | cons f rest =>
    -- the site is one with the frame put on top of it
    obtain ⟨b, rfl⟩ : ∃ b : Site, s = b.push f :=
      ⟨{ s with stack := rest }, by cases s; simp_all [push]⟩
    cases f with
    | asking index p => exact h.answer
    | replying index p r =>
      refine .without rfl ?_
      cases p <;> exact h.resume
    -- who is next is called, and the others wait
    | telling targets state =>
      refine .without rfl ?_
      have hb := h.quiet (.pop rfl)
      cases targets with
      | nil => exact hb
      | cons l targets =>
        exact (hb.quiet (.push (f := .telling targets state) rfl)).tell state l
    | delivering targets n =>
      refine .without rfl ?_
      have hb := h.quiet (.pop rfl)
      cases targets with
      | nil => exact hb
      | cons l targets =>
        exact (hb.quiet (.push (f := .delivering targets n) rfl)).deliver n l
    | introducing room waiting =>
      refine .without rfl ?_
      have hb := h.quiet (.pop rfl)
      cases waiting with
      | nil => exact hb
      | cons o waiting =>
        have hpushed := hb.quiet (.push (f := .introducing room waiting) rfl)
        exact hpushed.quiet (.push rfl)
    | outside =>
      refine .without rfl ?_
      exact h.quiet (.pop rfl)

/-! ## Throughout -/

/-- What holds between a monitor and its room is kept by every move. -/
theorem Fits.move (h : Fits name s ps) (m : Move) (sparing : s.isSparing name m) :
    Fits name (s.move m) (ps ++ (s.passage? m).toList) := by
  by_cases hwork : m = .work
  · subst hwork
    exact h.work
  · have hnone : s.passage? m = none := by cases m <;> first | rfl | exact absurd rfl hwork
    rw [hnone, Option.toList_none, List.append_nil]
    by_cases hcall : ∃ index c, m = .call index c
    · obtain ⟨index, c, rfl⟩ := hcall
      exact h.call index c
    · exact h.quiet (.move hwork (fun index c h => hcall ⟨index, c, h⟩) sparing)

theorem Fits.start (name : String) (isUp : Bool) :
    Fits name { connection := { isUp }, monitors := [{ monitor := { room := name } }] } [] where
  alone := ⟨_, rfl, rfl⟩
  own := by simp [tasks]
  placed := by simp [places, tasks, seats, watchers, Phase.seat?]
  balance := by simp [charges, tasks, seats, watchers, Phase.seat?]
  fresh := ⟨by simp [expected, tasks], by simp [expected, tasks]⟩
  door := by simp [isEntered, findRoom?]
  held := by simp

/-- What holds between a monitor and its room holds throughout. -/
theorem Watched.fits (h : Watched name s ps) : Fits name s ps := by
  induction h with
  | start isUp => exact .start name isUp
  | move _ m sparing ih => exact ih.move m sparing

/-- A monitor at rest is in its room if and only if the room is entered, unless it is in the room
    and the last passage through the door was to give up another seat, after its own had been let
    in. -/
theorem Watched.present_iff_isEntered (h : Watched name s ps) (idle : s.stack = []) :
    ∃ m, s.watchers = [m] ∧
      ((m.phase.seat?.isSome = true ↔ s.isEntered name = true) ↔
        ¬ ∃ seat other earlier, m.phase.seat? = some seat ∧ ps = earlier ++ [.left other] ∧
          .entered seat ∈ earlier ∧ other ≠ seat) := by
  have hfits := h.fits
  obtain ⟨m, hm, -⟩ := hfits.alone
  have hcharges : s.charges = m.phase.seat?.toList := by
    rw [charges, tasks, idle, seats_of_watchers hm]
    rfl
  refine ⟨m, hm, ?_⟩
  cases hseat : m.phase.seat? with
  | none =>
    rw [hseat] at hcharges
    -- if the room were entered, somebody would have to leave it
    have hout : s.isEntered name ≠ true := by
      intro hentered
      obtain ⟨seat, hlast⟩ := hfits.door.1 hentered
      have howed := hfits.held seat hlast
      simp [hcharges] at howed
    simp [hout]
  | some seat =>
    rw [hseat] at hcharges
    have hbalance := hfits.balance
    rw [hcharges] at hbalance
    -- the last passage decides, and there is one, since the monitor was let in
    rcases List.eq_nil_or_concat ps with rfl | ⟨earlier, last, rfl⟩
    · simp at hbalance
    · rw [List.concat_eq_append] at hbalance ⊢
      have hdoor := hfits.door
      rw [List.concat_eq_append, List.getLast?_concat] at hdoor
      cases last with
      | entered other => simp [hdoor]
      | left other =>
        have hentered : Passage.entered seat ∈ earlier := by
          have hmem : seat ∈ (earlier ++ [Passage.left other]).filterMap Passage.entered? :=
            hbalance.symm.subset (List.mem_append_right _ (.head _))
          obtain ⟨passage, hpassage, heq⟩ := List.mem_filterMap.1 hmem
          cases passage <;> simp_all [Passage.entered?]
        have hne : other ≠ seat := by
          -- no seat is let in twice, so its own is not among those that were given up
          have hnodup := hbalance.nodup_iff.1 (List.Sublist.nodup (List.sublist_append_left _ _)
            (List.concat_eq_append ▸ hfits.fresh.nodup))
          rintro rfl
          simp [List.filterMap_append, Passage.left?, List.nodup_append] at hnodup
        have hout : s.isEntered name ≠ true := by simp [hdoor]
        refine ⟨fun hiff => absurd (hiff.1 rfl) hout, fun hnone => absurd ?_ hnone⟩
        exact ⟨seat, other, earlier, rfl, rfl, hentered, hne⟩

/-- An outsider who hears of a member while the monitor is let in takes the registration away and
    gives it back. The attempt that began first is let in first and leaves last, and takes the one
    that began second out of the room. -/
theorem Watched.present_iff_isEntered_overtaken :
    ∃ s ps m seat, Watched "brewery" s ps ∧ s.stack = [] ∧ s.watchers = [m] ∧
      m.phase.seat? = some seat ∧ s.isEntered "brewery" = false ∧
      ∃ other earlier, ps = earlier ++ [.left other] ∧ .entered seat ∈ earlier ∧ other ≠ seat := by
  have h : Watched "brewery" _ _ := .start true
  replace h := h.move (.provideRoom "brewery") rfl
  replace h := h.move (.listenToRoom ⟨0⟩ 0) rfl
  replace h := h.move (.arrive ⟨0⟩ ⟨"w"⟩ none) rfl
  replace h := h.move .work rfl
  -- the first attempt, up to the outsider who hears of the member
  replace h := h.move (.call 0 .init) rfl
  iterate 10 replace h := h.move .work rfl
  replace h := h.move (.setState .unregistered) rfl
  iterate 2 replace h := h.move .work rfl
  -- the second attempt, up to its end
  replace h := h.move (.setState .registered) rfl
  iterate 9 replace h := h.move .work rfl
  -- the end of the first
  iterate 9 replace h := h.move .work rfl
  obtain ⟨m, hm, hiff⟩ := h.present_iff_isEntered rfl
  obtain rfl := (List.cons.inj hm).1
  -- it is present and the room is not entered, so there is the exception
  obtain ⟨seat, other, earlier, hseat, hps, hbefore, hne⟩ := Classical.not_not.1 fun hnone =>
    Bool.false_ne_true ((hiff.2 hnone).1 rfl)
  exact ⟨_, _, _, seat, h, rfl, rfl, hseat, rfl, other, earlier, hps, hbefore, hne⟩

end Site

end WorkerRoster
