import Mathlib.Algebra.GroupWithZero.Nat
import Mathlib.Data.List.Infix
import Mathlib.Data.Nat.Log
import WorkerRoster.Broadcast
import WorkerRoster.Proofs.Lasting

/-!
# What Receivers Are Told

Announcements are made, receivers come and go, and each reads at its own pace, while the bus keeps
no more than it has room for. Here it is shown that nothing gets lost on the way without being
reported. What a receiver got, announcements and reports of a lag, accounts for the announcements
taken since it subscribed, from the first one on, each of them once. What it gets next depends on
those it has not read and on nothing else: the first of them if they are all kept, and otherwise a
report of as many as are not kept any more.

What a receiver is owed is said by the log alone, which only has what can be seen from outside.

## Main statements

- `Broadcast.Runs.tallies`: the positions in a bus agree with the log
- `Broadcast.Tallies.receive_eq`: what a receiver gets next, and where it is after that
- `Broadcast.Runs.nothing_lost`: what a receiver got accounts for what was taken
-/

set_option autoImplicit false

namespace WorkerRoster.Broadcast

/-! ## Room -/

/-- A bus that was just made has room for what was asked for, and has taken nothing. -/
theorem of_create?_eq_some {capacity : Nat} {b : Broadcast} (h : create? capacity = some b) :
    capacity ≤ maxCapacity ∧ b = { size := roomFor capacity } := by
  unfold create? at h
  split at h
  · next hle =>
    cases h
    exact ⟨hle, rfl⟩
  · cases h

/-- The room of a bus is the least power of two that is not below the capacity. -/
theorem roomFor_eq (capacity : Nat) : roomFor capacity = 2 ^ Nat.clog 2 capacity := by
  unfold roomFor
  split
  · next hone => rw [Nat.clog_of_right_le_one hone, pow_zero]
  · next hmore =>
    -- a capacity that is a power of two itself must not be doubled
    have hclog : Nat.clog 2 capacity = (capacity - 1).log2 + 1 := by
      have hpred : capacity - 1 ≠ 0 := by omega
      refine le_antisymm (Nat.clog_le_of_le_pow ?_) ((Nat.lt_clog_iff_pow_lt Nat.one_lt_two).2 ?_)
      · have hlt := Nat.lt_log2_self (n := capacity - 1)
        omega
      · have hle := Nat.log2_self_le hpred
        omega
    rw [hclog, Nat.one_shiftLeft]

/-- A bus has room for at least as many announcements as were asked for, and for one. -/
theorem le_roomFor (capacity : Nat) : max capacity 1 ≤ roomFor capacity := by
  rw [roomFor_eq]
  exact max_le (Nat.le_pow_clog Nat.one_lt_two capacity) Nat.one_le_two_pow

/-! ## The log -/

/-- Something that happened at a bus, as far as it can be seen from outside. -/
inductive Event where
  | published (a : Announcement) (outcome : Except Undelivered Unit)
  | subscribed (receiver : Nat)
  | dropped (receiver : Nat)
  | received (receiver : Nat) (outcome : Except Silence Received)

/-- The announcement that was taken. -/
def Event.taken? : Event → Option Announcement
  | .published a (.ok ()) => some a
  | _ => none

/-- What a receiver got. -/
def Event.got? (receiver : Nat) : Event → Option Received
  | .received other (.ok r) => if other = receiver then some r else none
  | _ => none

/-- What happened at a bus of some capacity, in order, and the bus afterwards. -/
inductive Runs (capacity : Nat) : List Event → Broadcast → Prop where
  | start {b : Broadcast} (created : create? capacity = some b) : Runs capacity [] b
  | publish {log : List Event} {b : Broadcast} (h : Runs capacity log b) (a : Announcement) :
      Runs capacity (log ++ [.published a (b.publish a).2]) (b.publish a).1
  | subscribe {log : List Event} {b : Broadcast} (h : Runs capacity log b) :
      Runs capacity (log ++ [.subscribed b.subscribe.2]) b.subscribe.1
  | unsubscribe {log : List Event} {b : Broadcast} (h : Runs capacity log b) (receiver : Nat) :
      Runs capacity (log ++ [.dropped receiver]) (b.unsubscribe receiver)
  | receive {log : List Event} {b : Broadcast} (h : Runs capacity log b) (receiver : Nat) :
      Runs capacity (log ++ [.received receiver (b.receive receiver).2]) (b.receive receiver).1

/-- The announcements that were taken, in order. -/
def accepted (log : List Event) : List Announcement :=
  log.filterMap Event.taken?

/-- What a receiver got, in order. -/
def got (receiver : Nat) (log : List Event) : List Received :=
  log.filterMap (Event.got? receiver)

/-- The announcements that were taken since a receiver subscribed, in order. -/
def since (receiver : Nat) : List Event → List Announcement
  | [] => []
  | .subscribed other :: rest => if other = receiver then accepted rest else since receiver rest
  | .published _ _ :: rest | .dropped _ :: rest | .received _ _ :: rest => since receiver rest

/-- Whether a receiver subscribed and was not dropped since. -/
def IsAlive (receiver : Nat) : List Event → Prop :=
  Lasts (· = .subscribed receiver) (· = .dropped receiver)

/-! ## Accounts -/

/-- How many announcements something that is received stands for. -/
def Received.weight : Received → Nat
  | .announcement _ => 1
  | .lagged missed => missed

/-- What was received accounts for announcements, in order and each of them once: an announcement
    for itself, and the report of a lag for as many as were missed. -/
inductive Accounts : List Received → List Announcement → Prop where
  | nothing : Accounts [] []
  | announcement {rs : List Received} {as : List Announcement} (h : Accounts rs as)
      (a : Announcement) : Accounts (rs ++ [.announcement a]) (as ++ [a])
  | lagged {rs : List Received} {as : List Announcement} (h : Accounts rs as)
      (missed : List Announcement) (some : missed ≠ []) :
      Accounts (rs ++ [.lagged missed.length]) (as ++ missed)

/-- How many of the announcements taken since it subscribed a receiver has not been told of. -/
def unread (receiver : Nat) (log : List Event) : Nat :=
  (since receiver log).length - ((got receiver log).map Received.weight).sum

/-- What a receiver gets next where so many announcements are kept, by those it has not read. -/
def dueNext (room : Nat) : List Announcement → Except Silence Received
  | [] => .error .empty
  | a :: rest =>
    if rest.length < room then .ok (.announcement a)
    else .ok (.lagged (rest.length + 1 - room))

theorem Accounts.sum_weight {rs : List Received} {as : List Announcement} (h : Accounts rs as) :
    (rs.map Received.weight).sum = as.length := by
  induction h with
  | nothing => rfl
  | announcement _ a ih => simp [ih, Received.weight]
  | lagged _ missed _ ih => simp [ih, Received.weight]

section Log

variable {log : List Event} {e : Event} {receiver : Nat}

theorem accepted_concat : accepted (log ++ [e]) = accepted log ++ e.taken?.toList := by
  cases h : e.taken? <;> simp [accepted, h]

theorem got_concat : got receiver (log ++ [e]) = got receiver log ++ (e.got? receiver).toList := by
  cases h : e.got? receiver <;> simp [got, h]

/-- What happens before a receiver subscribes is nothing to it. -/
theorem since_append_of_not_mem (h : .subscribed receiver ∉ log) (rest : List Event) :
    since receiver (log ++ rest) = since receiver rest := by
  induction log with
  | nil => rfl
  | cons e log ih =>
    simp only [List.mem_cons, not_or] at h
    cases e with
    | subscribed other =>
      have hne : other ≠ receiver := fun heq => h.1 (heq ▸ rfl)
      simpa [since, hne] using ih h.2
    | published _ _ | dropped _ | received _ _ => simpa [since] using ih h.2

theorem since_of_not_mem (h : .subscribed receiver ∉ log) : since receiver log = [] := by
  simpa [since] using since_append_of_not_mem h []

/-- A receiver that has just subscribed is owed nothing yet. -/
theorem since_concat_of_not_mem (h : .subscribed receiver ∉ log) :
    since receiver (log ++ [e]) = [] := by
  rw [since_append_of_not_mem h]
  cases e with
  | subscribed other => by_cases heq : other = receiver <;> simp [since, heq, accepted]
  | published _ _ | dropped _ | received _ _ => rfl

/-- A receiver that has subscribed is owed what is taken. -/
theorem since_concat (h : .subscribed receiver ∈ log) :
    since receiver (log ++ [e]) = since receiver log ++ e.taken?.toList := by
  induction log with
  | nil => simp at h
  | cons d log ih =>
    cases d with
    | subscribed other =>
      by_cases heq : other = receiver
      · simp [since, heq, accepted_concat]
      · have hmem : .subscribed receiver ∈ log := by
          simpa [Ne.symm heq] using h
        simpa [since, heq] using ih hmem
    | published _ _ | dropped _ | received _ _ =>
      have hmem : .subscribed receiver ∈ log := by simpa using h
      simpa [since] using ih hmem

theorem isAlive_concat :
    IsAlive receiver (log ++ [e]) ↔
      e = .subscribed receiver ∨ IsAlive receiver log ∧ e ≠ .dropped receiver :=
  lasts_concat

end Log

/-! ## Positions -/

/-- Whether a bus and its log agree on a receiver: what it got accounts for a part of what it is
    owed, from the front, and if it is there, the rest begins at its position. -/
def Follows (log : List Event) (b : Broadcast) (receiver : Nat) : Prop :=
  ∃ told rest, since receiver log = told ++ rest ∧ Accounts (got receiver log) told ∧
    ∀ position, b.receivers[receiver]? = some (some position) →
      position ≤ (accepted log).length ∧ rest = (accepted log).drop position

/-- Whether a bus agrees with its log. -/
structure Tallies (capacity : Nat) (log : List Event) (b : Broadcast) : Prop where
  size : b.size = roomFor capacity
  isOpen : b.isClosed = false
  taken : b.taken = (accepted log).length
  recent : b.recent = (accepted log).reverse.take b.size
  /-- The numbers of receivers are given out in order. -/
  known : ∀ receiver, .subscribed receiver ∈ log ↔ receiver < b.receivers.length
  alive : ∀ receiver, b.isSubscribed receiver ↔ IsAlive receiver log
  follows : ∀ receiver, Follows log b receiver

section Tallies

variable {capacity : Nat} {log : List Event} {b : Broadcast} {receiver : Nat}

theorem isSubscribed_iff :
    b.isSubscribed receiver ↔ ∃ position, b.receivers[receiver]? = some (some position) := by
  unfold isSubscribed
  cases h : b.receivers[receiver]? with
  | none => simp
  | some o => cases o <;> simp

theorem receiverCount_ne_zero_iff : b.receiverCount ≠ 0 ↔ ∃ receiver, b.isSubscribed receiver := by
  rw [receiverCount, Nat.ne_zero_iff_zero_lt, List.countP_pos_iff]
  constructor
  · rintro ⟨o, hmem, hsome⟩
    obtain ⟨receiver, hreceiver⟩ := List.getElem?_of_mem hmem
    obtain ⟨position, rfl⟩ := Option.isSome_iff_exists.1 hsome
    exact ⟨receiver, isSubscribed_iff.2 ⟨position, hreceiver⟩⟩
  · rintro ⟨receiver, h⟩
    obtain ⟨position, hreceiver⟩ := isSubscribed_iff.1 h
    exact ⟨_, List.mem_of_getElem? hreceiver, rfl⟩

/-- A bus takes an announcement if a receiver is there; if it does not, nothing changes. -/
theorem publish_cases (b : Broadcast) (a : Announcement) :
    ((∃ receiver, b.isSubscribed receiver) ∧ b.publish a =
        ({ b with recent := (a :: b.recent).take b.size, taken := b.taken + 1 }, .ok ())) ∨
      (¬ ∃ receiver, b.isSubscribed receiver) ∧ b.publish a = (b, .error .noSubscribers) := by
  rw [← receiverCount_ne_zero_iff]
  unfold publish
  split
  · next h => exact .inr ⟨by simp [h], rfl⟩
  · next h => exact .inl ⟨h, rfl⟩

theorem tallies_start (h : create? capacity = some b) : Tallies capacity [] b := by
  obtain ⟨-, rfl⟩ := of_create?_eq_some h
  refine ⟨rfl, rfl, rfl, by simp [accepted], by simp, ?_, ?_⟩
  · intro receiver
    simp [isSubscribed, IsAlive, not_lasts_nil]
  · intro receiver
    exact ⟨[], [], rfl, .nothing, by simp⟩

/-- A receiver that gets nothing is followed as before, if its position stays or is given up. -/
theorem Tallies.follows_concat (h : Tallies capacity log b) {e : Event} {b' : Broadcast}
    (silent : e.got? receiver = none)
    (stays : ∀ position, b'.receivers[receiver]? = some (some position) →
      b.receivers[receiver]? = some (some position)) : Follows (log ++ [e]) b' receiver := by
  obtain ⟨told, rest, hsince, haccounts, hrest⟩ := h.follows receiver
  by_cases hmem : .subscribed receiver ∈ log
  · refine ⟨told, rest ++ e.taken?.toList, ?_, ?_, ?_⟩
    · rw [since_concat hmem, hsince, List.append_assoc]
    · simpa [got_concat, silent] using haccounts
    · intro position hposition
      obtain ⟨hle, rfl⟩ := hrest position (stays position hposition)
      rw [accepted_concat, List.drop_append_of_le_length hle, List.length_append]
      exact ⟨by omega, rfl⟩
  · -- the number has not been given out, so nothing is owed
    rw [since_of_not_mem hmem] at hsince
    obtain ⟨rfl, rfl⟩ := List.append_eq_nil_iff.1 hsince.symm
    refine ⟨[], [], since_concat_of_not_mem hmem, ?_, ?_⟩
    · simpa [got_concat, silent] using haccounts
    · intro position hposition
      obtain ⟨hlt, -⟩ := List.getElem?_eq_some_iff.1 (stays position hposition)
      exact absurd ((h.known receiver).2 hlt) hmem

/-- Where nothing is taken, only the receivers can change. -/
theorem Tallies.concat (h : Tallies capacity log b) {e : Event} (receivers : List (Option Nat))
    (silent : e.taken? = none)
    (known : ∀ receiver, .subscribed receiver ∈ log ++ [e] ↔ receiver < receivers.length)
    (alive : ∀ receiver,
      (∃ position, receivers[receiver]? = some (some position)) ↔ IsAlive receiver (log ++ [e]))
    (follows : ∀ receiver, Follows (log ++ [e]) { b with receivers } receiver) :
    Tallies capacity (log ++ [e]) { b with receivers } := by
  refine ⟨h.size, h.isOpen, ?_, ?_, known, ?_, follows⟩
  · simpa [accepted_concat, silent] using h.taken
  · simpa [accepted_concat, silent] using h.recent
  · intro receiver
    rw [isSubscribed_iff, ← alive]

/-- Receivers that are neither added nor dropped are there as before. -/
theorem Tallies.alive_concat (h : Tallies capacity log b) {e : Event}
    (keeps : e ≠ .subscribed receiver ∧ e ≠ .dropped receiver) :
    (∃ position, b.receivers[receiver]? = some (some position)) ↔
      IsAlive receiver (log ++ [e]) := by
  rw [isAlive_concat, ← h.alive, isSubscribed_iff]
  simp [keeps]

theorem Tallies.publish (h : Tallies capacity log b) (a : Announcement) :
    Tallies capacity (log ++ [.published a (b.publish a).2]) (b.publish a).1 := by
  have hknown : ∀ receiver outcome,
      .subscribed receiver ∈ log ++ [.published a outcome] ↔ receiver < b.receivers.length := by
    intro receiver outcome
    simpa using h.known receiver
  rcases b.publish_cases a with ⟨-, hpublish⟩ | ⟨-, hpublish⟩ <;> rw [hpublish]
  · refine ⟨h.size, h.isOpen, ?taken, ?recent, fun r => hknown r _, ?alive, ?follows⟩
    case taken => simp [h.taken, accepted_concat, Event.taken?]
    case recent =>
      -- what is kept is the front of all that was taken, latest first
      simp only [accepted_concat, Event.taken?, Option.toList_some, List.reverse_append,
        List.reverse_singleton, List.singleton_append, h.recent]
      cases b.size with
      | zero => rfl
      | succ n => simp [List.take_take]
    case alive =>
      intro receiver
      rw [isSubscribed_iff]
      exact h.alive_concat (by simp)
    case follows => exact fun receiver => h.follows_concat rfl fun _ hp => hp
  · apply h.concat b.receivers rfl (fun r => hknown r _)
    · exact fun receiver => h.alive_concat (by simp)
    · exact fun receiver => h.follows_concat rfl fun _ hp => hp

theorem getElem?_concat {α : Type} (as : List α) (a : α) (i : Nat) :
    (as ++ [a])[i]? = if i = as.length then some a else as[i]? := by
  rcases Nat.lt_trichotomy i as.length with hlt | rfl | hgt
  · simp [List.getElem?_append_left hlt, Nat.ne_of_lt hlt]
  · simp
  · have hout : (as ++ [a]).length ≤ i := by
      rw [List.length_append, List.length_singleton]
      exact hgt
    rw [if_neg (Nat.ne_of_gt hgt), List.getElem?_eq_none hout,
      List.getElem?_eq_none (Nat.le_of_lt hgt)]

theorem Tallies.subscribe (h : Tallies capacity log b) :
    Tallies capacity (log ++ [.subscribed b.subscribe.2]) b.subscribe.1 := by
  show Tallies capacity (log ++ [.subscribed b.receivers.length]) { b with receivers := _ }
  apply h.concat _ rfl
  case known =>
    intro receiver
    simp only [List.mem_append, h.known, List.mem_singleton, Event.subscribed.injEq,
      List.length_append, List.length_singleton]
    omega
  case alive =>
    intro receiver
    rw [getElem?_concat]
    by_cases hnew : receiver = b.receivers.length
    · simp [hnew, isAlive_concat]
    · rw [if_neg hnew]
      exact h.alive_concat (by simp [Ne.symm hnew])
  case follows =>
    intro receiver
    by_cases hnew : receiver = b.receivers.length
    · -- the first number that is free, so nothing has been owed or got
      subst hnew
      have hmem : .subscribed b.receivers.length ∉ log := by simp [h.known]
      obtain ⟨told, rest, hsince, haccounts, -⟩ := h.follows b.receivers.length
      rw [since_of_not_mem hmem] at hsince
      obtain ⟨rfl, rfl⟩ := List.append_eq_nil_iff.1 hsince.symm
      refine ⟨[], [], since_concat_of_not_mem hmem, ?_, ?_⟩
      · simpa [got_concat, Event.got?] using haccounts
      · intro position hposition
        obtain rfl : b.taken = position := by simpa using hposition
        simp [accepted_concat, Event.taken?, h.taken]
    · apply h.follows_concat rfl
      intro position hposition
      simpa [getElem?_concat, hnew] using hposition

theorem Tallies.unsubscribe (h : Tallies capacity log b) (dropped : Nat) :
    Tallies capacity (log ++ [.dropped dropped]) (b.unsubscribe dropped) := by
  have hset : ∀ receiver position,
      (b.receivers.set dropped none)[receiver]? = some (some position) ↔
        b.receivers[receiver]? = some (some position) ∧ dropped ≠ receiver := by
    intro receiver position
    rw [List.getElem?_set]
    by_cases heq : dropped = receiver <;> simp [heq]
  apply h.concat _ rfl
  case known =>
    intro receiver
    simpa using h.known receiver
  case alive =>
    intro receiver
    simp only [hset, exists_and_right]
    simp [isAlive_concat, ← h.alive, isSubscribed_iff]
  case follows =>
    intro receiver
    apply h.follows_concat rfl
    exact fun position hposition => ((hset receiver position).1 hposition).1

/-! ## Receiving -/

/-- What is received next accounts for the first of those that have not been read. -/
theorem Accounts.concat {rs : List Received} {told rest : List Announcement}
    (h : Accounts rs told) {room : Nat} {r : Received} (hnext : dueNext room rest = .ok r) :
    Accounts (rs ++ [r]) (told ++ rest.take r.weight) ∧ r.weight ≤ rest.length := by
  cases rest with
  | nil => cases hnext
  | cons a rest =>
    simp only [dueNext] at hnext
    split at hnext
    · cases hnext
      exact ⟨h.announcement a, by simp [Received.weight]⟩
    · next hfull =>
      cases hnext
      simp only [Received.weight]
      have hle : rest.length + 1 - room ≤ (a :: rest).length := Nat.sub_le _ _
      have hlength := List.length_take_of_le hle
      have hsome : (a :: rest).take (rest.length + 1 - room) ≠ [] := by
        apply List.ne_nil_of_length_pos
        omega
      have hlagged := h.lagged _ hsome
      rw [hlength] at hlagged
      exact ⟨hlagged, hle⟩

/-- A receiver that is there gets what comes next, and its position moves by as much. -/
theorem Tallies.receive_eq (h : Tallies capacity log b) {position : Nat}
    (hposition : b.receivers[receiver]? = some (some position)) :
    b.receive receiver =
      match dueNext b.size ((accepted log).drop position) with
      | .error silence => (b, .error silence)
      | .ok r =>
        ({ b with receivers := b.receivers.set receiver (some (position + r.weight)) }, .ok r) := by
  unfold receive
  simp only [hposition, Option.join_some, h.isOpen]
  by_cases hend : b.taken ≤ position
  · have hlength : (accepted log).length ≤ position := h.taken ▸ hend
    simp [hend, dueNext, List.drop_eq_nil_of_le hlength]
  · have hlt : position < (accepted log).length := by
      rw [← h.taken]
      omega
    rw [if_neg hend, List.drop_eq_getElem_cons hlt]
    simp only [dueNext, List.length_drop]
    -- whether an announcement is kept hangs on how many came after it
    have hat : b.at? position = if (accepted log).length - (position + 1) < b.size then
        some (accepted log)[position] else none := by
      unfold at?
      rw [h.taken, if_pos hlt, h.recent, List.getElem?_take, List.getElem?_reverse (by omega)]
      have hindex : (accepted log).length - 1 - ((accepted log).length - 1 - position) =
          position := by omega
      have hcount : (accepted log).length - 1 - position =
          (accepted log).length - (position + 1) := by omega
      rw [hindex, hcount, List.getElem?_eq_getElem hlt]
    rw [hat]
    by_cases hkept : (accepted log).length - (position + 1) < b.size
    · simp only [hkept, if_true, Received.weight]
    · have holdest : b.oldest = position +
          ((accepted log).length - (position + 1) + 1 - b.size) := by
        unfold oldest
        rw [h.taken, h.recent, List.length_take, List.length_reverse]
        omega
      simp only [hkept, if_false, holdest, Received.weight, Nat.add_sub_cancel_left]

/-- A receiver that gets something has been told of as much more. -/
theorem Tallies.follows_received (h : Tallies capacity log b) {position : Nat} {r : Received}
    (hposition : b.receivers[receiver]? = some (some position))
    (hnext : dueNext b.size ((accepted log).drop position) = .ok r) :
    Follows (log ++ [.received receiver (.ok r)])
      { b with receivers := b.receivers.set receiver (some (position + r.weight)) } receiver := by
  obtain ⟨hlt, -⟩ := List.getElem?_eq_some_iff.1 hposition
  obtain ⟨told, rest, hsince, haccounts, hrest⟩ := h.follows receiver
  obtain ⟨hle, rfl⟩ := hrest position hposition
  obtain ⟨haccounts, hweight⟩ := haccounts.concat hnext
  rw [List.length_drop] at hweight
  refine ⟨told ++ ((accepted log).drop position).take r.weight,
    ((accepted log).drop position).drop r.weight, ?_, ?_, ?_⟩
  · rw [since_concat ((h.known receiver).2 hlt), hsince]
    simp only [Event.taken?, Option.toList_none, List.append_nil, List.append_assoc,
      List.take_append_drop]
  · simpa [got_concat, Event.got?] using haccounts
  · intro later hlater
    simp only [List.getElem?_set_self hlt, Option.some.injEq] at hlater
    subst hlater
    rw [accepted_concat, List.drop_drop]
    simp only [Event.taken?, Option.toList_none, List.append_nil, and_true]
    omega

theorem Tallies.receive (h : Tallies capacity log b) (receiver : Nat) :
    Tallies capacity (log ++ [.received receiver (b.receive receiver).2])
      (b.receive receiver).1 := by
  have hknown : ∀ other outcome,
      .subscribed other ∈ log ++ [.received receiver outcome] ↔ other < b.receivers.length := by
    intro other outcome
    simpa using h.known other
  -- a receiver that gets nothing changes nothing
  have hsilent : ∀ silence, Tallies capacity (log ++ [.received receiver (.error silence)]) b := by
    intro silence
    apply h.concat b.receivers rfl (fun other => hknown other _)
    · exact fun other => h.alive_concat (by simp)
    · exact fun other => h.follows_concat rfl fun _ hp => hp
  by_cases hthere : b.isSubscribed receiver
  · obtain ⟨position, hposition⟩ := isSubscribed_iff.1 hthere
    obtain ⟨hlt, hget⟩ := List.getElem?_eq_some_iff.1 hposition
    rw [h.receive_eq hposition]
    cases hnext : dueNext b.size ((accepted log).drop position) with
    | error silence => exact hsilent silence
    | ok r =>
      apply h.concat _ rfl
      case known =>
        intro other
        simpa using hknown other (.ok r)
      case alive =>
        -- who reads on is there before and afterwards
        intro other
        rw [← h.alive_concat (by simp), List.getElem?_set]
        by_cases heq : receiver = other
        · subst heq
          simp [hlt, hget]
        · simp [heq]
      case follows =>
        intro other
        by_cases heq : receiver = other
        · subst heq
          exact h.follows_received hposition hnext
        · apply h.follows_concat
          · simp [Event.got?, heq]
          · simp [heq]
  · -- a receiver that was dropped
    have hnone : b.receivers[receiver]?.join = none := by simpa [isSubscribed] using hthere
    have hdropped : b.receive receiver = (b, .error .dropped) := by
      unfold Broadcast.receive
      rw [hnone]
    rw [hdropped]
    exact hsilent .dropped

end Tallies

/-! ## Runs -/

namespace Runs

variable {capacity : Nat} {log : List Event} {b : Broadcast} {receiver : Nat}

/-- A bus agrees with its log, whatever happens. -/
theorem tallies (h : Runs capacity log b) : Tallies capacity log b := by
  induction h with
  | start created => exact tallies_start created
  | publish _ a ih => exact ih.publish a
  | subscribe _ ih => exact ih.subscribe
  | unsubscribe _ receiver ih => exact ih.unsubscribe receiver
  | receive _ receiver ih => exact ih.receive receiver

theorem unread_eq {told rest : List Announcement} (hsince : since receiver log = told ++ rest)
    (haccounts : Accounts (got receiver log) told) : unread receiver log = rest.length := by
  rw [unread, haccounts.sum_weight, hsince, List.length_append]
  omega

/-- A receiver is told of a lag only if it has left more unread than was asked for. -/
theorem lt_unread_of_lagged (h : Runs capacity log b) {missed : Nat}
    (hlagged : (b.receive receiver).2 = .ok (.lagged missed)) :
    max capacity 1 < unread receiver log := by
  have htallies := h.tallies
  obtain ⟨told, rest, hsince, haccounts, hrest⟩ := htallies.follows receiver
  rw [unread_eq hsince haccounts]
  have hroom := le_roomFor capacity
  by_cases hthere : b.isSubscribed receiver
  · obtain ⟨position, hposition⟩ := isSubscribed_iff.1 hthere
    obtain ⟨-, hdrop⟩ := hrest position hposition
    rw [htallies.receive_eq hposition, ← hdrop, htallies.size] at hlagged
    cases rest with
    | nil => simp [dueNext] at hlagged
    | cons a rest =>
      by_cases hkept : rest.length < roomFor capacity
      · simp [dueNext, hkept] at hlagged
      · rw [List.length_cons]
        omega
  · have hnone : b.receivers[receiver]?.join = none := by simpa [isSubscribed] using hthere
    simp [Broadcast.receive, hnone] at hlagged

/-- A receiver that never leaves more unread than was asked for is told of no lag. -/
theorem lagged_not_mem (h : Runs capacity log b)
    (prompt : ∀ before, before <+: log → unread receiver before ≤ max capacity 1) (missed : Nat) :
    .lagged missed ∉ got receiver log := by
  induction h with
  | start => simp [got]
  | publish _ a ih | subscribe _ ih | unsubscribe _ dropped ih =>
    have hbefore := ih fun before hearlier =>
      prompt before (hearlier.trans (List.prefix_append _ _))
    simpa [got_concat, Event.got?] using hbefore
  | @receive log b h other ih =>
    have hbefore := ih fun before hearlier =>
      prompt before (hearlier.trans (List.prefix_append _ _))
    rw [got_concat, List.mem_append, not_or]
    refine ⟨hbefore, fun hmem => ?_⟩
    -- the report is the last that was got, and by then too many were unread
    have hlagged : other = receiver ∧ (b.receive other).2 = .ok (.lagged missed) := by
      cases hout : (b.receive other).2 with
      | error silence => simp [hout, Event.got?] at hmem
      | ok r =>
        rw [hout] at hmem
        by_cases heq : other = receiver
        · simpa [Event.got?, heq, eq_comm] using hmem
        · simp [Event.got?, heq] at hmem
    obtain ⟨rfl, hlagged⟩ := hlagged
    have hlt := h.lt_unread_of_lagged hlagged
    have hle := prompt log (List.prefix_append _ _)
    omega

/-- Whether an announcement is taken hangs on whether a receiver is there, and one that is not taken
    changes nothing. What a receiver got accounts for the announcements taken since it subscribed,
    as far as it has read; as long as it is there, what it gets next is what those it has not read
    give; and it is never told of a lag if it never leaves more unread than was asked for. -/
theorem nothing_lost (h : Runs capacity log b) :
    (∀ a, ((b.publish a).2 = .ok () ↔ ∃ receiver, IsAlive receiver log) ∧
      ((b.publish a).2 ≠ .ok () → (b.publish a).1 = b)) ∧
    ∀ receiver, ∃ told rest, since receiver log = told ++ rest ∧
      Accounts (got receiver log) told ∧
      (IsAlive receiver log → (b.receive receiver).2 = dueNext (roomFor capacity) rest) ∧
      ((∀ before, before <+: log → unread receiver before ≤ max capacity 1) →
        ∀ missed, .lagged missed ∉ got receiver log) := by
  have htallies := h.tallies
  constructor
  · intro a
    have halive : (∃ receiver, b.isSubscribed receiver) ↔ ∃ receiver, IsAlive receiver log :=
      exists_congr htallies.alive
    rw [← halive]
    rcases b.publish_cases a with ⟨hthere, hpublish⟩ | ⟨hnobody, hpublish⟩
    · simp [hpublish, hthere]
    · simp [hpublish, hnobody]
  · intro receiver
    obtain ⟨told, rest, hsince, haccounts, hrest⟩ := htallies.follows receiver
    refine ⟨told, rest, hsince, haccounts, fun halive => ?_, fun prompt => h.lagged_not_mem prompt⟩
    obtain ⟨position, hposition⟩ := isSubscribed_iff.1 ((htallies.alive receiver).2 halive)
    obtain ⟨-, rfl⟩ := hrest position hposition
    rw [htallies.receive_eq hposition, htallies.size]
    cases dueNext (roomFor capacity) ((accepted log).drop position) <;> rfl

/-- Of two receivers of a bus with room for four announcements, one reads nothing before the fifth
    is made and misses the first, and the other reads in time. -/
theorem nothing_lost_lagging :
    ∃ log b, Runs 3 log b ∧ IsAlive 0 log ∧
      since 0 log =
        [.offline ⟨"a"⟩, .offline ⟨"b"⟩, .offline ⟨"c"⟩, .offline ⟨"d"⟩, .offline ⟨"e"⟩] ∧
      got 0 log = [.lagged 1, .announcement (.offline ⟨"b"⟩)] ∧
      (∃ told rest, since 0 log = told ++ rest ∧ Accounts (got 0 log) told ∧
        (b.receive 0).2 = dueNext (roomFor 3) rest) ∧
      got 1 log = [.announcement (.offline ⟨"c"⟩), .announcement (.offline ⟨"d"⟩)] ∧
      ∀ missed, .lagged missed ∉ got 1 log := by
  have hroom : roomFor 3 = 4 := by decide +kernel
  have hcreated : create? 3 = some { size := 4 } := by simp [create?, maxCapacity, hroom]
  have h : Runs 3 _ _ := .start hcreated
  replace h := h.subscribe
  replace h := h.publish (.offline ⟨"a"⟩)
  replace h := h.publish (.offline ⟨"b"⟩)
  replace h := h.subscribe
  replace h := h.publish (.offline ⟨"c"⟩)
  replace h := h.receive 1
  replace h := h.publish (.offline ⟨"d"⟩)
  replace h := h.publish (.offline ⟨"e"⟩)
  replace h := h.receive 0
  replace h := h.receive 0
  replace h := h.receive 1
  -- what has happened, written out
  let log : List Event :=
    [.subscribed 0, .published (.offline ⟨"a"⟩) (.ok ()), .published (.offline ⟨"b"⟩) (.ok ()),
      .subscribed 1, .published (.offline ⟨"c"⟩) (.ok ()),
      .received 1 (.ok (.announcement (.offline ⟨"c"⟩))),
      .published (.offline ⟨"d"⟩) (.ok ()), .published (.offline ⟨"e"⟩) (.ok ()),
      .received 0 (.ok (.lagged 1)), .received 0 (.ok (.announcement (.offline ⟨"b"⟩))),
      .received 1 (.ok (.announcement (.offline ⟨"d"⟩)))]
  replace h : Runs 3 log _ := h
  have halive : IsAlive 0 log := ⟨[], _, _, rfl, rfl, by simp⟩
  -- the second receiver has never had more to read than fits
  have hprompt : ∀ before, before <+: log → unread 1 before ≤ max 3 1 := by
    intro before hearlier
    rw [← List.mem_inits] at hearlier
    revert before
    decide +kernel
  obtain ⟨-, hreceivers⟩ := h.nothing_lost
  obtain ⟨told, rest, hsince, haccounts, hnext, -⟩ := hreceivers 0
  obtain ⟨-, -, -, -, -, hsilent⟩ := hreceivers 1
  exact ⟨log, _, h, halive, rfl, rfl, ⟨told, rest, hsince, haccounts, hnext halive⟩, rfl,
    hsilent hprompt⟩

end Runs

end WorkerRoster.Broadcast
