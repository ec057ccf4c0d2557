import Std.Data.String.ToNat
import ClientPackager.Proofs.Registry.Visit

set_option autoImplicit false

namespace ClientPackager.Client.Registry

open Contract (RecordTable)

def numbered (base : String) (n : Nat) : String := s!"{base}_{n + 2}"

theorem numbered_injective (base : String) : Function.Injective (numbered base) := by
  intro m n same
  have tails : toString (m + 2) = toString (n + 2) := by
    simpa [numbered, String.append_assoc] using same
  have numbers : m + 2 = n + 2 := Nat.repr_injective tails
  omega

def candidates (registry : Registry) (base : String) : List String :=
  (List.range (registry.names.length + 1)).map (numbered base)

-- One candidate more than there are names, and all of them different.
theorem some_candidate_free (registry : Registry) (base : String) :
    ∃ name ∈ registry.candidates base, name ∉ registry.names := by
  by_contra none
  push Not at none
  have different : (registry.candidates base).Nodup := List.nodup_range.map (numbered_injective base)
  have few := different.length_le_of_subset none
  simp only [candidates, List.length_map, List.length_range] at few
  omega

theorem fresh_name_found (registry : Registry) (base : String) (taken : base ∈ registry.names) :
    ((registry.candidates base).find? fun name => name ∉ registry.names) = some (registry.freshName base) := by
  have named : registry.freshName base =
      ((registry.candidates base).find? fun name => name ∉ registry.names).getD base := by
    simp only [freshName, if_pos taken, candidates]
    rfl
  obtain ⟨free, listed, unused⟩ := some_candidate_free registry base
  have search : ((registry.candidates base).find? fun name => name ∉ registry.names).isSome :=
    List.find?_isSome.mpr ⟨free, listed, by simpa using unused⟩
  obtain ⟨found, first⟩ := Option.isSome_iff_exists.mp search
  rw [named, first, Option.getD_some]

theorem fresh_name_free (registry : Registry) (base : String) : registry.freshName base ∉ registry.names := by
  by_cases taken : base ∈ registry.names
  · simpa using List.find?_some (fresh_name_found registry base taken)
  · simpa only [freshName, if_neg taken] using taken

theorem names_define (table : RecordTable) (method : String) (registry : Registry) (id : RecordId)
    (distinct : registry.names.Nodup) : (registry.define table method id).names.Nodup := by
  have free := fresh_name_free registry (id.simpleName ++ "_" ++ method)
  have inserted : (registry.define table method id).names.Perm
      (registry.freshName (id.simpleName ++ "_" ++ method) :: registry.names) := by
    simp [names, define]
  exact inserted.nodup_iff.mpr (List.nodup_cons.mpr ⟨free, distinct⟩)

theorem names_visit (table : RecordTable) (method : String) (registry : Registry) (pending : List RecordId)
    (distinct : registry.names.Nodup) : (registry.visit table method pending).names.Nodup := by
  apply visit_preserves table method (fun later _ => later.names.Nodup)
  · exact fun later id _ _ before => names_define table method later id before
  · exact fun _ _ _ _ before => before
  · exact distinct

theorem names_add_typedef (registry : Registry) (typedef : Typedef) (distinct : registry.names.Nodup) :
    (registry.addTypedef typedef).names.Nodup := by
  by_cases taken : typedef.name ∈ registry.names
  · rwa [addTypedef, if_pos taken]
  · have appended : ({ registry with typedefs := registry.typedefs ++ [typedef] } : Registry).names =
        registry.names ++ [typedef.name] := by
      simp [names]
    rw [addTypedef, if_neg taken, appended, List.nodup_append]
    refine ⟨distinct, List.nodup_singleton _, ?_⟩
    intro name member last atEnd same
    exact taken (List.mem_singleton.mp atEnd ▸ same ▸ member)

theorem names_uses (table : RecordTable) (all : List (String × Descriptor)) (registry : Registry)
    (distinct : registry.names.Nodup) : (registerUses table registry all).names.Nodup := by
  apply register_uses_preserves table (fun later => later.names.Nodup) all _ registry distinct
  exact fun use _ later before => names_visit table use.1 later use.2.records before

theorem names_add_typedefs (typedefs : List Typedef) (registry : Registry) (distinct : registry.names.Nodup) :
    (typedefs.foldl addTypedef registry).names.Nodup := by
  induction typedefs generalizing registry with
  | nil => exact distinct
  | cons typedef rest ih => exact ih _ (names_add_typedef registry typedef distinct)

theorem of_contract_names (contract : Contract) : (ofContract contract).names.Nodup := by
  rw [of_contract_uses]
  apply names_uses contract.records (uses contract) (declared contract)
  exact names_add_typedefs (typedefsOf contract) empty List.nodup_nil

theorem mem_add_typedef (registry : Registry) (typedef kept : Typedef) (member : kept ∈ registry.typedefs) :
    kept ∈ (registry.addTypedef typedef).typedefs := by
  rw [addTypedef]
  split
  · exact member
  · exact List.mem_append_left _ member

-- Typedefs come before all records, so only an earlier typedef can have taken
-- the name of a typedef.
theorem add_typedefs_cover (typedefs : List Typedef) (registry : Registry) (first : registry.definitions = [])
    (name : String) (used : name ∈ registry.typedefs.map Typedef.name ∨ name ∈ typedefs.map Typedef.name) :
    name ∈ (typedefs.foldl addTypedef registry).typedefs.map Typedef.name := by
  induction typedefs generalizing registry with
  | nil => simpa using used
  | cons typedef rest ih =>
      have still : (registry.addTypedef typedef).definitions = [] := by
        rw [definitions_add_typedef, first]
      apply ih (registry.addTypedef typedef) still
      rcases used with old | listed
      · obtain ⟨kept, member, same⟩ := List.mem_map.mp old
        exact .inl (List.mem_map.mpr ⟨kept, mem_add_typedef registry typedef kept member, same⟩)
      · rcases List.mem_cons.mp listed with here | later
        · left
          by_cases taken : typedef.name ∈ registry.names
          · rw [addTypedef, if_pos taken, here]
            simpa [names, first] using taken
          · rw [addTypedef, if_neg taken, here]
            simp
        · exact .inr later

theorem add_typedefs_given (typedefs : List Typedef) (registry : Registry) (kept : Typedef)
    (member : kept ∈ (typedefs.foldl addTypedef registry).typedefs) : kept ∈ registry.typedefs ∨ kept ∈ typedefs := by
  induction typedefs generalizing registry with
  | nil => exact .inl member
  | cons typedef rest ih =>
      rcases ih (registry.addTypedef typedef) member with before | later
      · rw [addTypedef] at before
        split at before
        · exact .inl before
        · rcases List.mem_append.mp before with old | last
          · exact .inl old
          · exact .inr (List.mem_singleton.mp last ▸ List.mem_cons_self)
      · exact .inr (List.mem_cons_of_mem typedef later)

theorem typedef_declared (contract : Contract) (typedef : Typedef) (listed : typedef ∈ typedefsOf contract) :
    ∃ kept ∈ typedefsOf contract, kept.name = typedef.name ∧ kept ∈ (ofContract contract).typedefs := by
  rw [of_contract_uses, uses_keep_typedefs]
  obtain ⟨kept, member, same⟩ := List.mem_map.mp (add_typedefs_cover (typedefsOf contract) empty rfl typedef.name
    (.inr (List.mem_map_of_mem listed)))
  have given := add_typedefs_given (typedefsOf contract) empty kept member
  exact ⟨kept, given.resolve_left (by simp [empty]), same, member⟩

end ClientPackager.Client.Registry
