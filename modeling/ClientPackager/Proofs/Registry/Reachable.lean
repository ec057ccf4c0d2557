import ClientPackager.Proofs.Registry.Run

set_option autoImplicit false

namespace ClientPackager.Client.Registry

open Contract (RecordTable Field Method)

-- A typedef stands in for the declared type of its parameter, which then
-- leads to no record.
inductive Reachable (contract : Contract) : RecordId → Prop where
  | param (method : Method) (param : Contract.Param) (id : RecordId) (exported : method ∈ contract.methods)
      (taken : param ∈ method.params) (plain : param.typedef = none) (named : id ∈ param.type.records) :
      Reachable contract id
  | result (method : Method) (id : RecordId) (exported : method ∈ contract.methods)
      (named : id ∈ method.result.records) : Reachable contract id
  | field (parent : RecordId) (field : Field) (id : RecordId) (reached : Reachable contract parent)
      (declared : field ∈ contract.records.fieldsOf parent) (named : id ∈ field.type.records) :
      Reachable contract id

-- The types that the module or the declarations of a client spell out.
inductive Mapped (contract : Contract) : Descriptor → Prop where
  | param (method : Method) (param : Contract.Param) (exported : method ∈ contract.methods)
      (taken : param ∈ method.params) (plain : param.typedef = none) : Mapped contract param.type
  | answer (method : Method) (exported : method ∈ contract.methods) (single : method.mode = .requestResponse) :
      Mapped contract method.result
  | answers (method : Method) (exported : method ∈ contract.methods) (many : method.mode.isMultiValued = true) :
      Mapped contract method.result.delivered
  | property (definition : Definition) (field : Field) (defined : definition ∈ (ofContract contract).definitions)
      (listed : field ∈ definition.properties) : Mapped contract field.type

-- Closure under fields is false while records are pending: what a defined
-- record names is defined itself or waits to be.
structure Progress (contract : Contract) (registry : Registry) (pending : List RecordId) : Prop where
  distinct : registry.defined.Nodup
  reached : ∀ id ∈ registry.defined, Reachable contract id
  wanted : ∀ id ∈ pending, Reachable contract id
  covered : ∀ parent ∈ registry.defined, ∀ id ∈ fieldRecords contract.records parent,
    id ∈ registry.defined ∨ id ∈ pending
  faithful : ∀ definition ∈ registry.definitions, definition.properties = contract.records.fieldsOf definition.id

theorem field_records_reachable (contract : Contract) (parent id : RecordId) (reached : Reachable contract parent)
    (member : id ∈ fieldRecords contract.records parent) : Reachable contract id := by
  obtain ⟨field, declared, named⟩ := List.mem_flatMap.mp member
  exact .field parent field id reached declared named

theorem progress_fresh (contract : Contract) (method : String) (registry : Registry) (id : RecordId)
    (rest : List RecordId) (unnamed : id ∉ registry.defined) (progress : Progress contract registry (id :: rest)) :
    Progress contract (registry.define contract.records method id) (fieldRecords contract.records id ++ rest) := by
  have self := progress.wanted id List.mem_cons_self
  refine ⟨nodup_define _ _ registry id unnamed progress.distinct, ?_, ?_, ?_, ?_⟩
  · intro other member
    rcases List.mem_append.mp (defined_define _ _ _ _ ▸ member) with old | last
    · exact progress.reached other old
    · exact List.mem_singleton.mp last ▸ self
  · intro other member
    rcases List.mem_append.mp member with field | later
    · exact field_records_reachable contract id other self field
    · exact progress.wanted other (List.mem_cons_of_mem id later)
  · intro parent member other named
    rw [defined_define, List.mem_append]
    rcases List.mem_append.mp (defined_define _ _ _ _ ▸ member) with old | last
    · rcases progress.covered parent old other named with found | waiting
      · exact .inl (.inl found)
      · rcases List.mem_cons.mp waiting with same | later
        · exact .inl (.inr (List.mem_singleton.mpr same))
        · exact .inr (List.mem_append_right _ later)
    · exact .inr (List.mem_append_left _ (List.mem_singleton.mp last ▸ named))
  · intro definition member
    rcases List.mem_append.mp member with old | last
    · exact progress.faithful definition old
    · rw [List.mem_singleton.mp last]

theorem progress_known (contract : Contract) (registry : Registry) (id : RecordId) (rest : List RecordId)
    (named : id ∈ registry.defined) (progress : Progress contract registry (id :: rest)) :
    Progress contract registry rest := by
  refine ⟨progress.distinct, progress.reached, ?_, ?_, progress.faithful⟩
  · exact fun other member => progress.wanted other (List.mem_cons_of_mem id member)
  · intro parent member other field
    rcases progress.covered parent member other field with found | waiting
    · exact .inl found
    · rcases List.mem_cons.mp waiting with same | later
      · exact .inl (same ▸ named)
      · exact .inr later

theorem progress_register (contract : Contract) (method : String) (registry : Registry) (type : Descriptor)
    (wanted : ∀ id ∈ type.records, Reachable contract id) (progress : Progress contract registry []) :
    Progress contract (registry.register contract.records method type) [] := by
  apply visit_preserves contract.records method (Progress contract)
  · exact fun later id rest unnamed before => progress_fresh contract method later id rest unnamed before
  · exact fun later id rest named before => progress_known contract later id rest named before
  · refine ⟨progress.distinct, progress.reached, wanted, ?_, progress.faithful⟩
    intro parent member id named
    exact .inl ((progress.covered parent member id named).resolve_right (by simp))

theorem progress_uses (contract : Contract) (all : List (String × Descriptor)) (registry : Registry)
    (wanted : ∀ use ∈ all, ∀ id ∈ use.2.records, Reachable contract id) (progress : Progress contract registry []) :
    Progress contract (registerUses contract.records registry all) [] := by
  apply register_uses_preserves contract.records (fun later => Progress contract later []) all _ registry progress
  exact fun use listed later before => progress_register contract use.1 later use.2 (wanted use listed) before

theorem mem_types_of (method : Method) (type : Descriptor) :
    type ∈ typesOf method ↔
      (∃ param ∈ method.params, param.typedef = none ∧ param.type = type) ∨ type = method.result := by
  simp [typesOf, and_assoc]

theorem use_reachable (contract : Contract) (use : String × Descriptor) (listed : use ∈ uses contract)
    (id : RecordId) (named : id ∈ use.2.records) : Reachable contract id := by
  obtain ⟨method, exported, inMethod⟩ := List.mem_flatMap.mp listed
  obtain ⟨type, used, rfl⟩ := List.mem_map.mp inMethod
  rcases (mem_types_of method type).mp used with ⟨param, taken, plain, rfl⟩ | rfl
  · exact .param method param id exported taken plain named
  · exact .result method id exported named

theorem typedefs_define_nothing (typedefs : List Typedef) (registry : Registry) :
    (typedefs.foldl addTypedef registry).definitions = registry.definitions := by
  induction typedefs generalizing registry with
  | nil => rfl
  | cons typedef rest ih => rw [List.foldl_cons, ih, definitions_add_typedef]

theorem of_contract_progress (contract : Contract) : Progress contract (ofContract contract) [] := by
  rw [of_contract_uses]
  apply progress_uses contract (uses contract) (declared contract) (use_reachable contract)
  have none : (declared contract).definitions = [] := typedefs_define_nothing (typedefsOf contract) empty
  refine ⟨?_, ?_, ?_, ?_, ?_⟩ <;> simp [defined, none]

theorem type_of_method_defined (contract : Contract) (method : Method) (type : Descriptor)
    (exported : method ∈ contract.methods) (used : type ∈ typesOf method) (id : RecordId)
    (named : id ∈ type.records) : id ∈ (ofContract contract).defined := by
  rw [of_contract_uses]
  apply uses_defined contract.records (uses contract) (declared contract) (method.name, type) _ id named
  exact List.mem_flatMap.mpr ⟨method, exported, List.mem_map.mpr ⟨type, used, rfl⟩⟩

theorem reachable_defined (contract : Contract) (id : RecordId) (reached : Reachable contract id) :
    id ∈ (ofContract contract).defined := by
  induction reached with
  | param method param id exported taken plain named =>
      exact type_of_method_defined contract method param.type exported
        ((mem_types_of method param.type).mpr (.inl ⟨param, taken, plain, rfl⟩)) id named
  | result method id exported named =>
      exact type_of_method_defined contract method method.result exported
        ((mem_types_of method method.result).mpr (.inr rfl)) id named
  | field parent field id _ declared named ih =>
      have listed : id ∈ fieldRecords contract.records parent := List.mem_flatMap.mpr ⟨field, declared, named⟩
      exact ((of_contract_progress contract).covered parent ih id listed).resolve_right (by simp)

theorem records_delivered (type : Descriptor) : type.delivered.records = type.records := by
  cases type <;> rfl

theorem mapped_reachable (contract : Contract) (type : Descriptor) (mapped : Mapped contract type)
    (id : RecordId) (named : id ∈ type.records) : Reachable contract id := by
  cases mapped with
  | param method param exported taken plain => exact .param method param id exported taken plain named
  | answer method exported _ => exact .result method id exported named
  | answers method exported _ => exact .result method id exported (records_delivered method.result ▸ named)
  | property definition field defined listed =>
      have progress := of_contract_progress contract
      rw [progress.faithful definition defined] at listed
      exact .field definition.id field id
        (progress.reached definition.id (List.mem_map_of_mem defined)) listed named

end ClientPackager.Client.Registry
