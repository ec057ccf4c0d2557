import Mathlib.Data.List.Forall2
import Mathlib.Data.List.Perm.Basic

set_option autoImplicit false

namespace ClientPackager

variable {ε α β : Type}

-- A computation in steps is taken apart at its first step.
theorem bind_eq_ok (first : Except ε α) (next : α → Except ε β) (result : β) :
    first >>= next = .ok result ↔ ∃ value, first = .ok value ∧ next value = .ok result := by
  cases first <;> simp [bind, Except.bind]

-- A refusal stands in front of what is done next.
theorem unless_refused (refused : Prop) [Decidable refused] (fault : ε) (next : PUnit → Except ε α) (result : α) :
    (if refused then (throw fault : Except ε PUnit) >>= next else next ⟨⟩) = .ok result ↔
      ¬ refused ∧ next ⟨⟩ = .ok result := by
  split
  · next holds => simp [throw, throwThe, MonadExceptOf.throw, bind, Except.bind, holds]
  · next clear => simp [clear]

theorem map_m_eq_ok (f : α → Except ε β) (values : List α) (results : List β) :
    values.mapM f = .ok results ↔ List.Forall₂ (fun value result => f value = .ok result) values results := by
  induction values generalizing results with
  | nil =>
      constructor
      · intro same
        cases same
        exact .nil
      · intro none
        cases none
        rfl
  | cons value rest ih =>
      rw [List.mapM_cons, bind_eq_ok]
      constructor
      · rintro ⟨first, here, step⟩
        obtain ⟨others, later, same⟩ := (bind_eq_ok _ _ _).mp step
        cases same
        exact .cons here ((ih others).mp later)
      · intro pairs
        cases pairs with
        | cons here later => exact ⟨_, here, (bind_eq_ok _ _ _).mpr ⟨_, (ih _).mpr later, rfl⟩⟩

theorem map_m_ok (f : α → Except ε β) (g : α → β) (values : List α)
    (each : ∀ value ∈ values, f value = .ok (g value)) : values.mapM f = .ok (values.map g) :=
  (map_m_eq_ok f values (values.map g)).mpr (List.forall₂_map_right_iff.mpr (List.forall₂_same.mpr each))

theorem map_m_succeeds (f : α → Except ε β) (values : List α)
    (each : ∀ value ∈ values, ∃ result, f value = .ok result) : ∃ results, values.mapM f = .ok results := by
  induction values with
  | nil => exact ⟨[], rfl⟩
  | cons value rest ih =>
      obtain ⟨result, first⟩ := each value List.mem_cons_self
      obtain ⟨results, others⟩ := ih fun later member => each later (List.mem_cons_of_mem value member)
      exact ⟨result :: results, by simp only [List.mapM_cons, first, others]; rfl⟩

-- What is made of each value does not depend on the values around it.
theorem map_m_perm (f : α → Except ε β) (values others : List α) (results : List β) (permuted : others.Perm values)
    (made : values.mapM f = .ok results) : ∃ made, others.mapM f = .ok made ∧ made.Perm results := by
  rw [map_m_eq_ok] at made
  obtain ⟨reordered, each, same⟩ := List.perm_comp_forall₂ permuted made
  exact ⟨reordered, (map_m_eq_ok f others reordered).mpr each, same⟩

end ClientPackager
