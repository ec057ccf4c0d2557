import ClientPackager.Proofs.Registry.Names
import ClientPackager.Proofs.Registry.Preorder
import ClientPackager.Proofs.Registry.Reachable

set_option autoImplicit false

namespace ClientPackager.Client.Registry

open Contract (RecordTable Field Method)

-- The records that one method leads to, whatever the others do.
inductive ReachedBy (table : RecordTable) (method : Method) : RecordId → Prop where
  | param (param : Contract.Param) (id : RecordId) (taken : param ∈ method.params) (plain : param.typedef = none)
      (named : id ∈ param.type.records) : ReachedBy table method id
  | result (id : RecordId) (named : id ∈ method.result.records) : ReachedBy table method id
  | field (parent : RecordId) (field : Field) (id : RecordId) (reached : ReachedBy table method parent)
      (declared : field ∈ table.fieldsOf parent) (named : id ∈ field.type.records) : ReachedBy table method id

def FirstReacher (contract : Contract) (method : Method) (id : RecordId) : Prop :=
  ∃ earlier later, contract.methods = earlier ++ method :: later ∧ ReachedBy contract.records method id ∧
    ∀ other ∈ earlier, ¬ ReachedBy contract.records other id

-- The counter has no bound of its own.
def FirstFree (taken : List String) (base name : String) : Prop :=
  (base ∉ taken ∧ name = base) ∨
  (base ∈ taken ∧ ∃ k, 2 ≤ k ∧ name = base ++ "_" ++ toString k ∧ name ∉ taken ∧
    ∀ j, 2 ≤ j → j < k → base ++ "_" ++ toString j ∈ taken)

def typedefNames (contract : Contract) : List String := (typedefsOf contract).map Typedef.name

-- A name is chosen when its definition is appended: what is in use by then are
-- the names in front of it and those of all typedefs.
def NamedInTurn (contract : Contract) (definitions : List Definition) : Prop :=
  ∀ front definition back, definitions = front ++ definition :: back →
    ∃ method, FirstReacher contract method definition.id ∧
      FirstFree (typedefNames contract ++ front.map Definition.name)
        (definition.id.simpleName ++ "_" ++ method.name) definition.name

theorem first_free_congr (taken other : List String) (base name : String) (alike : ∀ used, used ∈ taken ↔ used ∈ other)
    (free : FirstFree taken base name) : FirstFree other base name := by
  simpa only [FirstFree, alike] using free

theorem numbered_text (base : String) (n : Nat) : numbered base n = base ++ "_" ++ toString (n + 2) := rfl

theorem fresh_name_first_free (registry : Registry) (base : String) :
    FirstFree registry.names base (registry.freshName base) := by
  by_cases taken : base ∈ registry.names
  · obtain ⟨_, n, _, here, before⟩ := List.find?_eq_some_iff_getElem.mp (fresh_name_found registry base taken)
    simp only [candidates, List.getElem_map, List.getElem_range, numbered_text] at here before
    refine .inr ⟨taken, n + 2, by omega, here.symm, fresh_name_free registry base, ?_⟩
    intro j least below
    have used := before (j - 2) (by omega)
    rw [Nat.sub_add_cancel least] at used
    simpa using used
  · exact .inl ⟨taken, by rw [freshName, if_neg taken]⟩

theorem declared_names (contract : Contract) (name : String) :
    name ∈ (declared contract).typedefs.map Typedef.name ↔ name ∈ typedefNames contract := by
  constructor
  · intro used
    obtain ⟨kept, member, same⟩ := List.mem_map.mp used
    have given := add_typedefs_given (typedefsOf contract) empty kept member
    exact List.mem_map.mpr ⟨kept, given.resolve_left (by simp [empty]), same⟩
  · exact fun listed => add_typedefs_cover (typedefsOf contract) empty rfl name (.inr listed)

theorem named_in_turn_append (contract : Contract) (definitions : List Definition) (last : Definition) (method : Method)
    (named : NamedInTurn contract definitions) (first : FirstReacher contract method last.id)
    (free : FirstFree (typedefNames contract ++ definitions.map Definition.name)
      (last.id.simpleName ++ "_" ++ method.name) last.name) :
    NamedInTurn contract (definitions ++ [last]) := by
  intro front definition back split
  rcases List.eq_nil_or_concat back with rfl | ⟨later, other, rfl⟩
  · obtain ⟨rfl, same⟩ := List.append_inj' split rfl
    obtain rfl : last = definition := by simpa using same
    exact ⟨method, first, free⟩
  · have shorter : definitions ++ [last] = (front ++ definition :: later) ++ [other] := by
      simpa only [List.concat_eq_append, List.append_assoc, List.cons_append] using split
    exact named front definition later (List.append_inj' shorter rfl).1

-- The walk for one method. What an earlier method leads to has its definition
-- by now, so a record without one is met by this method first.
structure Underway (contract : Contract) (earlier : List Method) (method : Method) (registry : Registry)
    (pending : List RecordId) : Prop where
  typedefs : registry.typedefs = (declared contract).typedefs
  covered : ∀ other ∈ earlier, ∀ id, ReachedBy contract.records other id → id ∈ registry.defined
  named : NamedInTurn contract registry.definitions
  wanted : ∀ id ∈ pending, ReachedBy contract.records method id

section Walk

variable (contract : Contract) (earlier later : List Method) (method : Method)
  (place : contract.methods = earlier ++ method :: later)

include place in
theorem underway_fresh (registry : Registry) (id : RecordId) (rest : List RecordId) (unmet : id ∉ registry.defined)
    (walk : Underway contract earlier method registry (id :: rest)) :
    Underway contract earlier method (registry.define contract.records method.name id)
      (fieldRecords contract.records id ++ rest) := by
  have reached := walk.wanted id List.mem_cons_self
  have first : FirstReacher contract method id :=
    ⟨earlier, later, place, reached, fun other member met => unmet (walk.covered other member id met)⟩
  refine ⟨walk.typedefs, ?_, ?_, ?_⟩
  · intro other member met reaches
    rw [defined_define]
    exact List.mem_append_left _ (walk.covered other member met reaches)
  · refine named_in_turn_append contract registry.definitions _ method walk.named first ?_
    apply first_free_congr registry.names _ _ _ _ (fresh_name_first_free registry _)
    intro used
    simp only [names, walk.typedefs, List.mem_append, declared_names, or_comm]
  · intro other member
    rcases List.mem_append.mp member with inField | waiting
    · obtain ⟨field, declared, named⟩ := List.mem_flatMap.mp inField
      exact .field id field other reached declared named
    · exact walk.wanted other (List.mem_cons_of_mem id waiting)

theorem underway_known (registry : Registry) (id : RecordId) (rest : List RecordId)
    (walk : Underway contract earlier method registry (id :: rest)) : Underway contract earlier method registry rest :=
  ⟨walk.typedefs, walk.covered, walk.named, fun other member => walk.wanted other (List.mem_cons_of_mem id member)⟩

include place in
theorem underway_register (registry : Registry) (type : Descriptor) (used : type ∈ typesOf method)
    (walk : Underway contract earlier method registry []) :
    Underway contract earlier method (registry.register contract.records method.name type) [] := by
  apply visit_preserves contract.records method.name (Underway contract earlier method)
  · intro other id rest unmet before
    exact underway_fresh contract earlier later method place other id rest unmet before
  · intro other id rest _ before
    exact underway_known contract earlier method other id rest before
  · refine ⟨walk.typedefs, walk.covered, walk.named, fun id named => ?_⟩
    rcases (mem_types_of method type).mp used with ⟨param, taken, plain, rfl⟩ | rfl
    · exact .param param id taken plain named
    · exact .result id named

end Walk

def usesOf (method : Method) : List (String × Descriptor) := (typesOf method).map fun type => (method.name, type)

structure Settled (contract : Contract) (earlier : List Method) (registry : Registry) : Prop where
  progress : Progress contract registry []
  typedefs : registry.typedefs = (declared contract).typedefs
  covered : ∀ other ∈ earlier, ∀ id, ReachedBy contract.records other id → id ∈ registry.defined
  named : NamedInTurn contract registry.definitions

theorem reached_by_defined (contract : Contract) (method : Method) (registry : Registry)
    (progress : Progress contract registry [])
    (types : ∀ type ∈ typesOf method, ∀ id ∈ type.records, id ∈ registry.defined) (id : RecordId)
    (reached : ReachedBy contract.records method id) : id ∈ registry.defined := by
  induction reached with
  | param param id taken plain named =>
      exact types param.type ((mem_types_of method param.type).mpr (.inl ⟨param, taken, plain, rfl⟩)) id named
  | result id named => exact types method.result ((mem_types_of method method.result).mpr (.inr rfl)) id named
  | field parent field id _ declared named ih =>
      have listed : id ∈ fieldRecords contract.records parent := List.mem_flatMap.mpr ⟨field, declared, named⟩
      exact (progress.covered parent ih id listed).resolve_right (by simp)

theorem settled_method (contract : Contract) (earlier later : List Method) (method : Method)
    (place : contract.methods = earlier ++ method :: later) (registry : Registry)
    (settled : Settled contract earlier registry) :
    Settled contract (earlier ++ [method]) (registerUses contract.records registry (usesOf method)) := by
  have exported : ∀ use ∈ usesOf method, use ∈ uses contract := fun use listed =>
    List.mem_flatMap.mpr ⟨method, by simp [place], listed⟩
  have progress : Progress contract (registerUses contract.records registry (usesOf method)) [] :=
    progress_uses contract _ registry (fun use listed => use_reachable contract use (exported use listed))
      settled.progress
  have walk : Underway contract earlier method (registerUses contract.records registry (usesOf method)) [] := by
    apply register_uses_preserves contract.records (fun other => Underway contract earlier method other [])
    · intro use listed other before
      obtain ⟨type, used, rfl⟩ := List.mem_map.mp listed
      exact underway_register contract earlier later method place other type used before
    · exact ⟨settled.typedefs, settled.covered, settled.named, by simp⟩
  have types : ∀ type ∈ typesOf method, ∀ id ∈ type.records,
      id ∈ (registerUses contract.records registry (usesOf method)).defined := fun type used id named =>
    uses_defined contract.records _ registry (method.name, type) (List.mem_map_of_mem used) id named
  refine ⟨progress, walk.typedefs, ?_, walk.named⟩
  intro other member id reached
  rcases List.mem_append.mp member with before | last
  · exact walk.covered other before id reached
  · obtain rfl := List.mem_singleton.mp last
    exact reached_by_defined contract other _ progress types id reached

theorem settled_methods (contract : Contract) (earlier rest : List Method) (place : contract.methods = earlier ++ rest)
    (registry : Registry) (settled : Settled contract earlier registry) :
    Settled contract contract.methods (registerUses contract.records registry (rest.flatMap usesOf)) := by
  induction rest generalizing earlier registry with
  | nil =>
      rw [List.append_nil] at place
      exact place ▸ settled
  | cons method later ih =>
      have next := settled_method contract earlier later method place registry settled
      rw [List.flatMap_cons, registerUses, List.foldl_append]
      exact ih (earlier ++ [method]) (by simpa using place) _ next

theorem of_contract_settled (contract : Contract) : Settled contract contract.methods (ofContract contract) := by
  have none : (declared contract).definitions = [] := typedefs_define_nothing (typedefsOf contract) empty
  rw [of_contract_uses]
  refine settled_methods contract [] contract.methods rfl (declared contract) ⟨?_, rfl, by simp, ?_⟩
  · refine ⟨?_, ?_, ?_, ?_, ?_⟩ <;> simp [defined, none]
  · intro front definition back split
    simp [none] at split

-- Methods in their order, and within each the parameters and then the result.
def walked (contract : Contract) : List RecordId :=
  contract.methods.flatMap fun method =>
    (method.params.filter (·.typedef.isNone)).flatMap (·.type.records) ++ method.result.records

theorem uses_walked (contract : Contract) : (uses contract).flatMap (fun use => use.2.records) = walked contract := by
  simp only [uses, walked, typesOf, List.flatMap_assoc, List.flatMap_map, List.flatMap_append, List.flatMap_singleton]

theorem records_named_in_walk_order (contract : Contract) :
    (∀ order, Preorder contract.records [] (walked contract) order ↔
      order = (ofContract contract).definitions.map Definition.id) ∧
    (∀ front definition back, (ofContract contract).definitions = front ++ definition :: back →
      ∃ method, FirstReacher contract method definition.id ∧
        FirstFree (typedefNames contract ++ front.map Definition.name)
          (definition.id.simpleName ++ "_" ++ method.name) definition.name) := by
  have none : (declared contract).defined = [] := by
    rw [defined, declared, typedefs_define_nothing]
    rfl
  obtain ⟨order, listed, walk⟩ := uses_preorder contract.records (uses contract) (declared contract)
  rw [none, uses_walked] at walk
  rw [none, ← of_contract_uses, List.nil_append, defined] at listed
  refine ⟨fun other => ⟨fun derived => ?_, fun same => ?_⟩, (of_contract_settled contract).named⟩
  · rw [listed]
    exact preorder_unique contract.records _ _ other order derived walk
  · rw [same, listed]
    exact walk

end ClientPackager.Client.Registry
