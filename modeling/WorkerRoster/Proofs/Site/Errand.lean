import Mathlib.Logic.Function.Iterate
import WorkerRoster.Proofs.Site.Quiet

/-!
# Errands at a Site

At a site with one monitor, an errand is something that is done while nothing is under way. What it
sets going is worked on without interruption until nothing is under way again; only then comes the
next errand. So between two errands the site is at rest, and an errand takes it from one rest to the
next.

## Main statements

- `Site.Settles.unique`: there is only one site at which the work can end
- `Site.Runs.unique`: errands that are done one after the other lead to one site only
-/

set_option autoImplicit false

namespace WorkerRoster

/-- Something that is done while nothing is under way. Rooms go by their names. -/
inductive Errand where
  /-- The monitor is told to watch. -/
  | init
  /-- The monitor is told to stop. -/
  | dispose
  | setState (state : Registration)
  | refuseNextRequest (refusal : Refusal)
  | refuseNextEntry (room : String) (refusal : Refusal)
  | arrive (room : String) (id : WorkerId) (presence : Option Presence)
  | update (room : String) (id : WorkerId) (presence : Presence)
  | depart (room : String) (id : WorkerId) (kind : { kind : NoticeKind // kind.isDeparture })

namespace Site

/-- Do something at the room of a name, which is made if there is none. -/
def inRoom (s : Site) (name : String) (f : Site → RoomRef → Site) : Site :=
  f (s.provideRoom name).1 (s.provideRoom name).2

/-- What an errand does at once. What it sets going is left on the stack. -/
def begin (s : Site) : Errand → Site
  | .init => s.call 0 .init
  | .dispose => s.call 0 .dispose
  | .setState state => s.setState state
  | .refuseNextRequest refusal => s.refuseNextRequest refusal
  | .refuseNextEntry name refusal => s.inRoom name fun s room => s.refuseNextEntry room refusal
  | .arrive name id presence => s.inRoom name fun s room => s.happen room (·.arrive id presence)
  | .update name id presence => s.inRoom name fun s room => s.happen room (·.update id presence)
  | .depart name id kind => s.inRoom name fun s room => s.happen room (·.depart id kind)

/-! ## Work -/

/-- Work leads from one site to another, and nobody interrupts it. -/
inductive Works : Site → Site → Prop where
  | refl {s : Site} : Works s s
  | step {s s' : Site} (later : Works (s.step none) s') : Works s s'

/-- Work leads to a site at which nothing is under way. -/
def Settles (s s' : Site) : Prop :=
  Works s s' ∧ s'.stack = []

variable {s s' s'' : Site}

theorem Works.trans (h : Works s s') (h' : Works s' s'') : Works s s'' := by
  induction h with
  | refl => exact h'
  | step _ ih => exact .step (ih h')

/-- Where nothing is under way, work changes nothing. -/
theorem step_of_rest (h : s.stack = []) : s.step none = s := by
  unfold step
  rw [h]

theorem Works.eq_of_rest (h : Works s s') (rest : s.stack = []) : s' = s := by
  induction h with
  | refl => rfl
  | step _ ih =>
    rw [step_of_rest rest] at ih
    exact ih rest

/-- Work that has gone on for some steps. -/
theorem works_iterate (n : Nat) (s : Site) : s.Works ((Site.step · none)^[n] s) := by
  induction n generalizing s with
  | zero => exact .refl
  | succ n ih => exact .step (ih (s.step none))

/-- There is only one site at which the work can end. -/
theorem Settles.unique (h : Settles s s') (h' : Settles s s'') : s'' = s' := by
  obtain ⟨hworks, hrest⟩ := h
  induction hworks with
  | refl => exact h'.1.eq_of_rest hrest
  | @step s _ _ ih =>
    apply ih _ hrest
    obtain ⟨hworks', hrest'⟩ := h'
    cases hworks' with
    | step later => exact ⟨later, hrest'⟩
    | refl =>
      -- the other one stopped here already, so there was nothing left to do
      rw [step_of_rest hrest']
      exact ⟨.refl, hrest'⟩

/-! ## Runs -/

/-- A site at which nothing has happened yet, with one monitor that watches a room. -/
def unused (isUp : Bool) (name : String) : Site :=
  { connection := { isUp }, monitors := [{ monitor := { room := name } }] }

/-- What comes of errands at an unused site, one after the other. -/
inductive Runs (isUp : Bool) (name : String) : List Errand → Site → Prop where
  | start : Runs isUp name [] (unused isUp name)
  | errand {es : List Errand} {s s' : Site} (runs : Runs isUp name es s) (e : Errand)
    (settles : (s.begin e).Settles s') : Runs isUp name (es ++ [e]) s'

/-- Errands that are done one after the other lead to one site only. -/
theorem Runs.unique {isUp : Bool} {name : String} {es : List Errand} (h : Runs isUp name es s)
    (h' : Runs isUp name es s') : s' = s := by
  induction h generalizing s' with
  | start =>
    generalize hes : [] = es at h'
    cases h' with
    | start => rfl
    | errand => simp at hes
  | @errand es s₀ _ _ e settles ih =>
    generalize hes : es ++ [e] = es' at h'
    cases h' with
    | start => simp at hes
    | errand runs' e' settles' =>
      obtain ⟨rfl, rfl⟩ := List.append_singleton_inj.1 hes
      cases ih runs'
      exact settles.unique settles'

end Site

end WorkerRoster
