/-!
# What Happened Last, and What Lasts

What came after something that happened is nothing yet, or ends with what happened last
(`split_concat`). In a list of what happened, something lasts if it was brought about, and nothing
that ends it has come since. Whether it lasts after one more thing has happened depends only on that
thing and on whether it has lasted until then (`lasts_concat`).
-/

set_option autoImplicit false

namespace WorkerRoster

variable {α : Type} {brings ends : α → Prop} {as : List α} {a : α}

/-- A list that goes on after one of its members was there, and what it ends with. -/
theorem split_concat {before after : List α} {last : α} (h : as ++ [last] = before ++ a :: after) :
    after = [] ∧ as = before ∧ last = a ∨
      ∃ rest, after = rest ++ [last] ∧ as = before ++ a :: rest := by
  rcases List.eq_nil_or_concat after with rfl | ⟨rest, b, rfl⟩
  · obtain ⟨has, hlast⟩ := List.append_inj' h rfl
    exact .inl ⟨rfl, has, List.singleton_inj.1 hlast⟩
  · rw [List.concat_eq_append, ← List.cons_append, ← List.append_assoc] at h
    obtain ⟨has, hlast⟩ := List.append_inj' h rfl
    rw [List.concat_eq_append, List.singleton_inj.1 hlast]
    exact .inr ⟨rest, rfl, has⟩

/-- Whether something that `brings` it about came, and nothing that `ends` it came after that. -/
def Lasts (brings ends : α → Prop) (as : List α) : Prop :=
  ∃ before a after, as = before ++ a :: after ∧ brings a ∧ ∀ b ∈ after, ¬ ends b

theorem not_lasts_nil : ¬ Lasts brings ends [] := by
  rintro ⟨before, a, after, h, -⟩
  simp at h

theorem lasts_concat :
    Lasts brings ends (as ++ [a]) ↔ brings a ∨ Lasts brings ends as ∧ ¬ ends a := by
  constructor
  · rintro ⟨before, b, after, hsplit, hbrings, hafter⟩
    -- the last one brought it about, or there was one before
    rcases split_concat hsplit with ⟨-, -, rfl⟩ | ⟨rest, rfl, has⟩
    · exact .inl hbrings
    · refine .inr ⟨⟨before, b, rest, has, hbrings, ?_⟩, hafter _ (by simp)⟩
      exact fun c hc => hafter c (by simp [hc])
  · rintro (hbrings | ⟨⟨before, b, after, rfl, hbrings, hafter⟩, hlast⟩)
    · exact ⟨as, a, [], rfl, hbrings, by simp⟩
    · refine ⟨before, b, after ++ [a], by simp, hbrings, ?_⟩
      intro c hc
      rcases List.mem_append.1 hc with hc | hc
      · exact hafter c hc
      · rw [List.mem_singleton.1 hc]
        exact hlast

end WorkerRoster
