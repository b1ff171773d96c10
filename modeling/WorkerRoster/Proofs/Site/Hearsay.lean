import WorkerRoster.Proofs.Lasting
import WorkerRoster.Proofs.Site.Underway

/-!
# What a Listener Hears of Somebody Last

A room tells its listeners of every change, but whoever is called with a notice may change the room
again before the next listener is called. The notice of that change is told at once, and so it
overtakes the one that is on its way. So the last notice that a listener hears of somebody need not
be of the last change.

Here it is shown that this is the only reason. Of the notices about somebody that are on their way
to a listener, the one at the bottom of the stack is heard last. A change that is made while none is
on its way puts its notice there; one that is made while some are leaves the bottom as it is.

## Main statements

- `Site.Stay.outlook`: the notice to be heard last is that of the last change that overtook none
- `Site.Stay.last_told`: so it is the one that was heard last when nothing is under way any more
-/

set_option autoImplicit false

namespace WorkerRoster

namespace Site

variable {s s' : Site} {room : RoomRef} {l : RoomListener} {w : WorkerId} {m : Move}

/-! ## While a room is entered -/

/-- A room is entered, and stays so with a listener in it. The listener was there before, it listens
    in no other room meanwhile, and nothing is told but what happens. -/
inductive Stay (room : RoomRef) (l : RoomListener) (s : Site) : List Move → Prop where
  | enters {m : Move} (closed : s.isOpen room = false) (alone : s.IsAlone room l)
    (plain : m.isPlain room) (listens : l ∈ (s.move m).roomAudience room) : Stay room l s [m]
  | goesOn {ms : List Move} {m : Move} (stay : Stay room l s ms)
    (alone : (s.after ms).IsAlone room l) (plain : m.isPlain room)
    (listens : l ∈ ((s.after ms).move m).roomAudience room) : Stay room l s (ms ++ [m])

/-- The last move that was in its turn: the first of all or a change of somebody, made when no
    notice about them was on its way to a listener. All later changes of them overtook one. -/
structure LastInTurn (s : Site) (room : RoomRef) (l : RoomListener) (w : WorkerId)
    (before : List Move) (m : Move) (later : List Move) : Prop where
  changes : before = [] ∨ m.changes room w
  inTurn : (s.after before).underWay room l w = []
  overtaking : ∀ between x rest, later = between ++ x :: rest → x.changes room w →
    (s.after (before ++ m :: between)).underWay room l w ≠ []

theorem Reachable.after (h : s.Reachable) (ms : List Move) : (s.after ms).Reachable := by
  induction ms generalizing s with
  | nil => exact h
  | cons m ms ih => exact ih (h.move m)

namespace Hears

theorem member_eq (h : Hears room l w s m s') (changes : m.changes room w = false) :
    s'.member? room w = s.member? room w := by
  cases h with
  | nothing _ untouched _ => exact untouched.member
  | told _ _ _ member _ _ | introduced _ _ _ _ _ member _ _ | opened _ _ _ member _ => exact member
  | changed _ _ _ _ _ changed => simp [changes] at changed

/-- What is told and what is on its way end as they did, unless somebody is changed in turn. -/
theorem getLast?_eq (h : Hears room l w s m s') (listens : l ∈ s.roomAudience room)
    (overtaking : m.changes room w → s.underWay room l w ≠ []) (past : List Notice) :
    (past ++ (s.told? l w m).toList ++ s'.underWay room l w).getLast? =
      (past ++ s.underWay room l w).getLast? := by
  have hcount : (s.roomAudience room).count l ≠ 0 :=
    Nat.ne_of_gt (List.count_pos_iff.2 listens)
  cases h with
  | nothing told untouched _ => simp [told, untouched.underWay]
  | told n told underWay _ _ _ => simp [told, underWay]
  | introduced n rest told before underWay _ _ _ =>
    simp [told, before, underWay, List.getLast?_append, List.getLast?_replicate, List.getLast?_cons,
      hcount]
  | changed n told _ underWay _ changes =>
    obtain ⟨n', rest, hrest⟩ := List.exists_cons_of_ne_nil (overtaking changes)
    simp [told, underWay, hrest, List.getLast?_append, List.getLast?_cons]
  | opened _ closed _ _ _ => simp [isOpen_of_mem_roomAudience listens] at closed

/-- Of a change in turn, a notice is on its way, and no other behind it. -/
theorem tells_of_changes (h : Hears room l w s m s') (listens : l ∈ s.roomAudience room)
    (changes : m.changes room w) (inTurn : s.underWay room l w = []) (past : List Notice) :
    Notice.Tells (past ++ (s.told? l w m).toList ++ s'.underWay room l w).getLast?
      (s'.member? room w) := by
  have hcount : (s.roomAudience room).count l ≠ 0 :=
    Nat.ne_of_gt (List.count_pos_iff.2 listens)
  have hopen := isOpen_of_mem_roomAudience listens
  cases h with
  | nothing _ _ silent => simp [silent changes] at hopen
  | told _ _ _ _ _ unchanged | introduced _ _ _ _ _ _ _ unchanged | opened _ _ _ _ unchanged =>
    simp [changes] at unchanged
  | changed n told tells underWay _ _ =>
    simpa [told, underWay, inTurn, List.getLast?_append, List.getLast?_replicate, hcount]
      using tells

/-- Who is there when the room is entered is introduced. -/
theorem tells_of_opened (h : Hears room l w s m s') (closed : s.isOpen room = false)
    (opened : s'.isOpen room) (inTurn : s.underWay room l w = []) :
    Notice.Tells ((s.told? l w m).toList ++ s'.underWay room l w).getLast?
      (s'.member? room w) := by
  -- nothing else opens the door of a room
  have habsurd : ¬ (s'.isOpen room → s.isOpen room) := by
    simp [closed, opened]
  cases h with
  | nothing _ untouched _ => exact absurd untouched.door habsurd
  | told _ _ _ _ door _ | introduced _ _ _ _ _ _ door _ | changed _ _ _ _ door _ =>
    exact absurd door habsurd
  | opened told _ underWay member _ =>
    rw [told, underWay, inTurn, member]
    cases s.member? room w with
    | none => exact nofun
    | some o => exact ⟨_, rfl, .inl rfl, rfl⟩

end Hears

namespace Stay

variable {ms before later : List Move}

theorem ne_nil (h : Stay room l s ms) : ms ≠ [] := by
  cases h with
  | enters _ _ _ _ => exact List.cons_ne_nil _ _
  | goesOn _ _ _ _ => simp

theorem listens (h : Stay room l s ms) : l ∈ (s.after ms).roomAudience room := by
  cases h with
  | enters _ _ _ listens => exact listens
  | goesOn _ _ _ listens => rwa [after_concat]

/-- If no notice about somebody was on its way when the room was entered, there is a last move that
    was in its turn. -/
theorem exists_lastInTurn (stay : Stay room l s ms) (inTurn : s.underWay room l w = []) :
    ∃ before m later, ms = before ++ m :: later ∧ s.LastInTurn room l w before m later := by
  induction stay with
  | @enters x _ _ _ _ => exact ⟨[], x, [], rfl, .inl rfl, inTurn, by simp⟩
  | @goesOn ms x stay _ _ _ ih =>
    by_cases hx : x.changes room w ∧ (s.after ms).underWay room l w = []
    · -- the move itself is in its turn
      exact ⟨ms, x, [], rfl, .inr hx.1, hx.2, by simp⟩
    · obtain ⟨before, m, later, rfl, last⟩ := ih
      refine ⟨before, m, later ++ [x], by simp, last.changes, last.inTurn, ?_⟩
      intro between y rest hlater changes
      rcases split_concat hlater with ⟨-, rfl, rfl⟩ | ⟨rest, -, rfl⟩
      · exact fun hclear => hx ⟨changes, hclear⟩
      · exact last.overtaking between y rest rfl changes

/-- The notice to be heard last, of those heard and those on their way, is that of the last move
    that was in its turn. -/
theorem outlook (reachable : s.Reachable) (stay : Stay room l s ms)
    (split : ms = before ++ m :: later) (last : s.LastInTurn room l w before m later) :
    Notice.Tells (s.told l w ms ++ (s.after ms).underWay room l w).getLast?
      ((s.after (before ++ [m])).member? room w) := by
  induction stay generalizing before m later with
  | @enters x closed alone plain listens =>
    obtain ⟨rfl, rfl, rfl⟩ : before = [] ∧ m = x ∧ later = [] := by
      cases before <;> simp_all
    have hhears := hears_move (w := w) alone reachable.isDistinct plain
    simpa [told, after] using
      hhears.tells_of_opened closed (isOpen_of_mem_roomAudience listens) last.inTurn
  | @goesOn ms x stay alone plain listens ih =>
    have hhears := hears_move (w := w) alone (reachable.after ms).isDistinct plain
    rw [told_concat, after_concat]
    rcases split_concat split with ⟨rfl, rfl, rfl⟩ | ⟨rest, rfl, rfl⟩
    · rw [after_concat]
      exact hhears.tells_of_changes stay.listens (last.changes.resolve_left stay.ne_nil)
        last.inTurn _
    · -- a later move leaves what is heard last as it was
      rw [hhears.getLast?_eq stay.listens (last.overtaking rest x [] rfl)]
      refine ih rfl ⟨last.changes, last.inTurn, ?_⟩
      intro between y rest' hrest
      exact last.overtaking between y (rest' ++ [x]) (by simp [hrest])

/-- Who is not changed any more is as it was. -/
theorem member?_eq (reachable : s.Reachable) (stay : Stay room l s ms)
    (split : ms = before ++ m :: later) (unchanged : ∀ x ∈ later, x.changes room w = false) :
    (s.after ms).member? room w = (s.after (before ++ [m])).member? room w := by
  induction stay generalizing before m later with
  | @enters x closed alone plain listens =>
    obtain ⟨rfl, rfl, rfl⟩ : before = [] ∧ m = x ∧ later = [] := by
      cases before <;> simp_all
    rfl
  | @goesOn ms x stay alone plain listens ih =>
    have hhears := hears_move (w := w) alone (reachable.after ms).isDistinct plain
    rcases split_concat split with ⟨rfl, rfl, rfl⟩ | ⟨rest, rfl, rfl⟩
    · rfl
    · rw [after_concat, hhears.member_eq (unchanged x (by simp))]
      exact ih rfl fun y hy => unchanged y (List.mem_append_left _ hy)

/-! ### A room with two listeners -/

/-- Where there is only one room, nobody listens in another. -/
theorem isAlone_of_length (h : s.rooms.length ≤ 1) : s.IsAlone ⟨0⟩ l := by
  intro other hother
  have hindex : s.rooms.length ≤ other.index := by
    refine Nat.le_trans h (Nat.pos_of_ne_zero fun hzero => hother ?_)
    rw [← hzero]
  simp [roomAudience, List.getElem?_eq_none hindex]

/-- A stay goes on in the only room there is. -/
theorem append (stay : Stay ⟨0⟩ l s ms) (plain : ∀ m ∈ later, m.isPlain ⟨0⟩)
    (only : ∀ k ≤ later.length, (s.after (ms ++ later.take k)).rooms.length ≤ 1 ∧
      l ∈ (s.after (ms ++ later.take k)).roomAudience ⟨0⟩) : Stay ⟨0⟩ l s (ms ++ later) := by
  induction later generalizing ms with
  | nil => simpa using stay
  | cons m later ih =>
    have hgoes : Stay ⟨0⟩ l s (ms ++ [m]) := by
      refine stay.goesOn (isAlone_of_length ?_) (plain m List.mem_cons_self) ?_
      · simpa using (only 0 (Nat.zero_le _)).1
      · simpa [after_concat] using (only 1 (by simp)).2
    rw [List.append_cons]
    refine ih hgoes (fun m' hm' => plain m' (List.mem_cons_of_mem m hm')) fun k hk => ?_
    simpa using only (k + 1) (by simpa using hk)

/-- Two listeners in a room that nobody has entered yet, and an idle worker. -/
def hall : Site :=
  after { connection := { isUp := false } } [.provideRoom "brewery", .listenToRoom ⟨0⟩ 0,
    .listenToRoom ⟨0⟩ 1, .arrive ⟨0⟩ ⟨"w"⟩ (some (.announcing .idle)), .work]

theorem reachable_hall : hall.Reachable :=
  (Reachable.start false []).after _

/-- The room is entered, and the first listener is told of the worker. Before the second one is, the
    first has the worker show that it is busy. -/
def interruption : List Move :=
  [.enter ⟨0⟩, .work, .work] ++ .update ⟨0⟩ ⟨"w"⟩ (.announcing .busy) :: List.replicate 10 .work

theorem stay_interruption (h : l = .outsider 0 ∨ l = .outsider 1) :
    Stay ⟨0⟩ l hall interruption := by
  show Stay ⟨0⟩ l hall ([.enter ⟨0⟩] ++ interruption.tail)
  rcases h with rfl | rfl
  all_goals
    refine append (.enters rfl (isAlone_of_length ?_) rfl ?_) ?_ ?_
    all_goals decide +kernel

/-- The room is left after both listeners have been told of the worker, who goes meanwhile. -/
def absence : List Move :=
  [.enter ⟨0⟩] ++ List.replicate 7 .work ++ [.leave ⟨0⟩, .depart ⟨0⟩ ⟨"w"⟩ .left, .work]

/-! ### What is told last -/

/-- While a room stays entered, and when nothing is under way any more, what a listener was told
    last about an address is of the last move that was in its turn, and shows who had the address
    right after it. If nobody changed it since, that is who has the address now. There is such a
    move unless something about the address was on its way already when the room was entered. -/
theorem last_told (reachable : s.Reachable) (stay : Stay room l s ms)
    (rest : (s.after ms).stack = []) (w : WorkerId) :
    (s.underWay room l w = [] →
      ∃ before m later, ms = before ++ m :: later ∧ s.LastInTurn room l w before m later) ∧
    ∀ before m later, ms = before ++ m :: later → s.LastInTurn room l w before m later →
      Notice.Tells (s.told l w ms).getLast? ((s.after (before ++ [m])).member? room w) ∧
      ((∀ x ∈ later, x.changes room w = false) →
        Notice.Tells (s.told l w ms).getLast? ((s.after ms).member? room w)) := by
  refine ⟨stay.exists_lastInTurn, fun before m later split last => ?_⟩
  have htells := stay.outlook reachable split last
  have hclear : (s.after ms).underWay room l w = [] := by
    rw [underWay, rest]
    rfl
  rw [hclear, List.append_nil] at htells
  refine ⟨htells, fun unchanged => ?_⟩
  rwa [stay.member?_eq reachable split unchanged]

/-- The first listener is told last what it brought about itself. -/
theorem last_told_nested :
    hall.Reachable ∧ Stay ⟨0⟩ (.outsider 0) hall interruption ∧
      (hall.after interruption).stack = [] ∧
      ∃ before m later, interruption = before ++ m :: later ∧
        hall.LastInTurn ⟨0⟩ (.outsider 0) ⟨"w"⟩ before m later ∧
        (∀ x ∈ later, x.changes ⟨0⟩ ⟨"w"⟩ = false) ∧
        Notice.Tells (hall.told (.outsider 0) ⟨"w"⟩ interruption).getLast?
          ((hall.after interruption).member? ⟨0⟩ ⟨"w"⟩) ∧
        (hall.after interruption).member? ⟨0⟩ ⟨"w"⟩ =
          some ⟨⟨"w"⟩, some (.announcing .busy)⟩ := by
  have unchanged : ∀ x ∈ List.replicate 10 Move.work, x.changes ⟨0⟩ ⟨"w"⟩ = false := by
    intro x hx
    rw [List.eq_of_mem_replicate hx]
    rfl
  have last : hall.LastInTurn ⟨0⟩ (.outsider 0) ⟨"w"⟩ [.enter ⟨0⟩, .work, .work]
      (.update ⟨0⟩ ⟨"w"⟩ (.announcing .busy)) (List.replicate 10 .work) := by
    refine ⟨.inr rfl, by decide +kernel, fun between x rest split changes => ?_⟩
    rw [unchanged x (by simp [split])] at changes
    cases changes
  have stay := stay_interruption (l := .outsider 0) (.inl rfl)
  have hrest : (hall.after interruption).stack = [] := by decide +kernel
  obtain ⟨-, htells⟩ := (stay.last_told reachable_hall hrest ⟨"w"⟩).2 _ _ _ rfl last
  exact ⟨reachable_hall, stay, hrest, _, _, _, rfl, last, unchanged, htells unchanged,
    by decide +kernel⟩

/-- The last notice need not show who has an address. What happens while the room is left is not
    told, and not made up for when it is entered again; and what the first of two listeners brings
    about is told to the second before what the first was told. -/
theorem last_told_fails :
    hall.Reachable ∧
    (Stay ⟨0⟩ (.outsider 0) (hall.after absence) [.enter ⟨0⟩, .work] ∧
      (hall.after (absence ++ [.enter ⟨0⟩, .work])).stack = [] ∧
      ¬ Notice.Tells (hall.told (.outsider 0) ⟨"w"⟩ (absence ++ [.enter ⟨0⟩, .work])).getLast?
        ((hall.after (absence ++ [.enter ⟨0⟩, .work])).member? ⟨0⟩ ⟨"w"⟩)) ∧
    (Stay ⟨0⟩ (.outsider 1) hall interruption ∧ (hall.after interruption).stack = [] ∧
      ¬ Notice.Tells (hall.told (.outsider 1) ⟨"w"⟩ interruption).getLast?
        ((hall.after interruption).member? ⟨0⟩ ⟨"w"⟩)) := by
  have hstay : Stay ⟨0⟩ (.outsider 0) (hall.after absence) ([.enter ⟨0⟩] ++ [.work]) := by
    refine append (.enters ?_ (isAlone_of_length ?_) rfl ?_) ?_ ?_
    all_goals decide +kernel
  exact ⟨reachable_hall, ⟨hstay, by decide +kernel, by decide +kernel⟩,
    stay_interruption (.inr rfl), by decide +kernel, by decide +kernel⟩

end Stay

end Site

end WorkerRoster
