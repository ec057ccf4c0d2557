import ClientPackager.Proofs.Registry.Visit

set_option autoImplicit false

namespace ClientPackager.Client.Registry

open Contract (RecordTable)

-- What a depth-first walk over the pending records meets for the first time:
-- each record in front of all that its fields lead to, and that in front of
-- what is pending behind it. Records met before the walk are passed over.
inductive Preorder (table : RecordTable) : List RecordId → List RecordId → List RecordId → Prop where
  | nil (before : List RecordId) : Preorder table before [] []
  | known (before rest order : List RecordId) (id : RecordId) (met : id ∈ before)
      (later : Preorder table before rest order) : Preorder table before (id :: rest) order
  | fresh (before rest inner outer : List RecordId) (id : RecordId) (unmet : id ∉ before)
      (fields : Preorder table (before ++ [id]) (fieldRecords table id) inner)
      (later : Preorder table (before ++ id :: inner) rest outer) :
      Preorder table before (id :: rest) (id :: (inner ++ outer))

theorem preorder_unique (table : RecordTable) (before pending first second : List RecordId)
    (left : Preorder table before pending first) (right : Preorder table before pending second) : first = second := by
  induction left generalizing second with
  | nil => cases right; rfl
  | known before rest order id met _ ih =>
      cases right with
      | known _ _ _ _ _ later => exact ih second later
      | fresh _ _ _ _ _ unmet => exact absurd met unmet
  | fresh before rest inner outer id unmet _ _ ihFields ihRest =>
      cases right with
      | known _ _ _ _ met => exact absurd met unmet
      | fresh _ _ innerOther outerOther _ _ fields later =>
          have sameInner := ihFields innerOther fields
          subst sameInner
          rw [ihRest outerOther later]

theorem preorder_append (table : RecordTable) (before first second front back : List RecordId)
    (left : Preorder table before first front) (right : Preorder table (before ++ front) second back) :
    Preorder table before (first ++ second) (front ++ back) := by
  induction left with
  | nil before => simpa using right
  | known before rest order id met _ ih => exact .known before _ _ id met (ih right)
  | fresh before rest inner outer id unmet fields _ _ ih =>
      rw [List.cons_append, List.cons_append, List.append_assoc]
      refine .fresh before _ inner _ id unmet fields (ih ?_)
      simpa only [List.append_assoc, List.cons_append] using right

theorem preorder_split (table : RecordTable) (before first second order : List RecordId)
    (walk : Preorder table before (first ++ second) order) :
    ∃ front back, order = front ++ back ∧ Preorder table before first front ∧
      Preorder table (before ++ front) second back := by
  induction first generalizing before order with
  | nil => exact ⟨[], order, rfl, .nil before, by simpa using walk⟩
  | cons id rest ih =>
      cases walk with
      | known _ _ _ _ met later =>
          obtain ⟨front, back, split, left, right⟩ := ih before order later
          exact ⟨front, back, split, .known before rest front id met left, right⟩
      | fresh _ _ inner outer _ unmet fields later =>
          obtain ⟨front, back, split, left, right⟩ := ih (before ++ id :: inner) outer later
          refine ⟨id :: (inner ++ front), back, by simp [split],
            .fresh before rest inner front id unmet fields left, ?_⟩
          simpa only [List.append_assoc, List.cons_append] using right

-- The records of the fields wait in front of what is pending, so the order of
-- the walk parts where the fields of a record end.
theorem visit_preorder (table : RecordTable) (method : String) (registry : Registry) (pending : List RecordId) :
    ∃ order, (registry.visit table method pending).defined = registry.defined ++ order ∧
      Preorder table registry.defined pending order := by
  induction registry, pending using visit.induct table method with
  | case1 registry => exact ⟨[], by simp [visit], .nil _⟩
  | case2 registry id rest missing ih =>
      have unmet := (name_of_eq_none registry id).mp missing
      obtain ⟨order, grown, walk⟩ := ih
      rw [defined_define] at grown walk
      obtain ⟨inner, outer, split, fields, later⟩ := preorder_split table _ _ _ _ walk
      refine ⟨id :: order, ?_, ?_⟩
      · rw [visit_fresh table method registry id rest unmet, grown, List.append_assoc, List.singleton_append]
      · rw [split]
        refine .fresh _ _ inner outer id unmet fields ?_
        simpa only [List.append_assoc, List.singleton_append] using later
  | case3 registry id rest present ih =>
      have met : id ∈ registry.defined :=
        Classical.byContradiction fun unmet => present ((name_of_eq_none registry id).mpr unmet)
      obtain ⟨order, grown, walk⟩ := ih
      exact ⟨order, by rw [visit_known table method registry id rest met, grown], .known _ rest order id met walk⟩

theorem uses_preorder (table : RecordTable) (all : List (String × Descriptor)) (registry : Registry) :
    ∃ order, (registerUses table registry all).defined = registry.defined ++ order ∧
      Preorder table registry.defined (all.flatMap fun use => use.2.records) order := by
  induction all generalizing registry with
  | nil => exact ⟨[], by simp [registerUses], .nil _⟩
  | cons use rest ih =>
      obtain ⟨front, grown, first⟩ := visit_preorder table use.1 registry use.2.records
      obtain ⟨back, ended, second⟩ := ih (registry.register table use.1 use.2)
      rw [register, grown] at second
      refine ⟨front ++ back, ?_, preorder_append table _ _ _ front back first second⟩
      rw [← List.append_assoc, ← grown]
      exact ended

end ClientPackager.Client.Registry
