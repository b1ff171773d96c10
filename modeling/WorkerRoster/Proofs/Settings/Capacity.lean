import WorkerRoster.Proofs.Broadcast
import WorkerRoster.Proofs.Settings.Layers

/-!
# A Bus of the Capacity that is Set

Settings are checked when they are loaded, and a bus is made from them later. The check keeps out a
capacity of none. At the other end the environment can only set what a bus can be made for, but a
file can set any word, and nobody looks at it again. So there is one way to load settings of which
no bus can be made: the file sets too much, and the environment leaves it at that.

## Main statement

- `Settings.create?_of_load`: of which settings that are loaded no bus can be made
-/

set_option autoImplicit false

namespace WorkerRoster

open Json

namespace Broadcast

theorem create?_eq_none_iff (capacity : Nat) :
    create? capacity = none ↔ maxCapacity < capacity := by
  unfold create?
  split <;> simp <;> omega

end Broadcast

/-- What the environment sets is enough for a bus, and not too much. -/
theorem Environment.bounds_of_capacity? {env : Environment} {n : Nat}
    (h : env.capacity? = some n) :
    1 ≤ n.toUInt64.toNat ∧ n.toUInt64.toNat ≤ Broadcast.maxCapacity := by
  obtain ⟨v, -, hv⟩ := Option.bind_eq_some_iff.1 h
  obtain ⟨hlow, hhigh⟩ := Decimal.bounds_of_wholeWithin? hv
  -- such a number is the same in a word
  have hword : n.toUInt64.toNat = n := by
    simp only [Nat.toUInt64, UInt64.toNat_ofNat']
    omega
  rw [hword, Broadcast.maxCapacity]
  omega

namespace Settings

variable {file : SettingsFile} {env : Environment} {s : Settings}

/-- Of settings that are loaded a bus can be made with room for at least one announcement, unless
    the file sets more than a bus can be made for and the environment sets nothing that can be
    used. -/
theorem create?_of_load (h : (load file env).1 = .ok s) :
    (Broadcast.ofSettings? s.detector = none ↔
      env.capacity? = none ∧ ∃ written, ofFile file.content = .ok written ∧
        Broadcast.maxCapacity < written.detector.capacity.toNat) ∧
    ∀ b, Broadcast.ofSettings? s.detector = some b →
      1 ≤ s.detector.capacity.toNat ∧ s.detector.capacity.toNat ≤ Broadcast.maxCapacity ∧
        b = { size := Broadcast.roomFor s.detector.capacity.toNat } := by
  obtain ⟨written, hfile, rfl, hsome⟩ := exists_of_load h
  constructor
  · rw [Broadcast.ofSettings?, Broadcast.create?_eq_none_iff]
    cases hset : env.capacity? with
    | some n =>
      have hcapacity : (written.under env).detector.capacity = n.toUInt64 := by simp [under, hset]
      have hbounds := (Environment.bounds_of_capacity? hset).2
      rw [hcapacity]
      simp only [reduceCtorEq, false_and, iff_false]
      omega
    | none =>
      have hcapacity : (written.under env).detector.capacity = written.detector.capacity := by
        simp [under, hset]
      rw [hcapacity]
      constructor
      · exact fun hlt => ⟨rfl, written, hfile, hlt⟩
      · rintro ⟨-, other, hother, hlt⟩
        cases hfile.symm.trans hother
        exact hlt
  · intro b hb
    obtain ⟨hle, rfl⟩ := Broadcast.of_create?_eq_some hb
    have hpos : (written.under env).detector.capacity.toNat ≠ 0 := fun hzero =>
      hsome (UInt64.toNat_inj.1 hzero)
    exact ⟨by omega, hle, rfl⟩

/-- A file that sets the least capacity for which no bus can be made. -/
def immoderateFile : SettingsFile :=
  ⟨"settings.json",
    .bytes "\x7b\"detector\": \x7b\"eventCapacity\": 9223372036854775808\x7d\x7d".toUTF8⟩

theorem ofFile_immoderateFile : ofFile immoderateFile.content =
    .ok { detector := { capacity := 9223372036854775808 } } :=
  ofFile_of_text immoderateFile.path (by decide +kernel)

/-- Such a file does no harm where the environment sets something else. -/
theorem create?_of_load_rescued :
    ∃ env s b, (load immoderateFile env).1 = .ok s ∧
      (∃ written, ofFile immoderateFile.content = .ok written ∧
        Broadcast.maxCapacity < written.detector.capacity.toNat) ∧
      Broadcast.ofSettings? s.detector = some b ∧ b = { size := 8 } := by
  let env : Environment := fun name => if name = Environment.capacityName then some " 5 " else none
  have hunder : ({ detector := { capacity := 9223372036854775808 } } : Settings).under env =
      { detector := { capacity := 5 } } := by
    decide +kernel
  have hload : (load immoderateFile env).1 = .ok { detector := { capacity := 5 } } := by
    rw [load_eq, ofFile_immoderateFile]
    simp only [Except.bind, hunder]
    rfl
  obtain ⟨hnone, hsome⟩ := create?_of_load hload
  have hset : env.capacity? ≠ none := by decide +kernel
  obtain ⟨b, hb⟩ := Option.ne_none_iff_exists'.1 fun h => hset (hnone.1 h).1
  have hroom : Broadcast.roomFor 5 = 8 := by decide +kernel
  refine ⟨env, _, b, hload, ⟨_, ofFile_immoderateFile, by decide⟩, hb, ?_⟩
  rw [(hsome b hb).2.2, ← hroom]
  rfl

/-- Nobody looks at what such a file sets: it is loaded, and no bus can be made of it. -/
theorem load_immoderateFile :
    (load immoderateFile fun _ => none).1 =
        .ok { detector := { capacity := 9223372036854775808 } } ∧
      Broadcast.ofSettings? { capacity := 9223372036854775808 } = none := by
  constructor
  · rw [load_eq, ofFile_immoderateFile]
    rfl
  · rw [Broadcast.ofSettings?, Broadcast.create?_eq_none_iff]
    decide

end Settings

end WorkerRoster
