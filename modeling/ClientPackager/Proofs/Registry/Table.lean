import ClientPackager.Package.Bundle
import ClientPackager.Proofs.Registry.Visit

set_option autoImplicit false

namespace ClientPackager

namespace Client.Registry

open Contract (RecordTable)

variable (table other : RecordTable) (alike : ∀ id, other.fieldsOf id = table.fieldsOf id)

include alike

theorem define_of_fields (method : String) (registry : Registry) (id : RecordId) :
    registry.define other method id = registry.define table method id := by
  rw [define, define, alike]

-- The walk asks a table for the fields of records and for nothing else.
theorem visit_of_fields (method : String) (registry : Registry) (pending : List RecordId) :
    registry.visit other method pending = registry.visit table method pending := by
  induction registry, pending using visit.induct table method with
  | case1 registry => simp only [visit]
  | case2 registry id rest missing ih =>
      have unseen := (name_of_eq_none registry id).mp missing
      have fields : fieldRecords other id = fieldRecords table id := by rw [fieldRecords, fieldRecords, alike]
      rw [visit_fresh other method registry id rest unseen, visit_fresh table method registry id rest unseen, fields,
        define_of_fields table other alike, ih]
  | case3 registry id rest present ih =>
      have seen : id ∈ registry.defined :=
        Classical.byContradiction fun unseen => present ((name_of_eq_none registry id).mpr unseen)
      rw [visit_known other method registry id rest seen, visit_known table method registry id rest seen, ih]

theorem uses_of_fields (all : List (String × Descriptor)) (registry : Registry) :
    registerUses other registry all = registerUses table registry all := by
  simp only [registerUses, register, visit_of_fields table other alike]

end Client.Registry

namespace Contract

variable (contract : Contract) (other : RecordTable)
  (alike : ∀ id, other.fieldsOf id = contract.records.fieldsOf id)

include alike

theorem registry_of_fields :
    Client.Registry.ofContract { contract with records := other } = Client.Registry.ofContract contract := by
  rw [Client.Registry.of_contract_uses, Client.Registry.of_contract_uses]
  exact Client.Registry.uses_of_fields contract.records other alike (Client.Registry.uses contract) _

-- Behind the registry a client is printed from the methods alone.
theorem package_of_fields (spec : PackageSpec) :
    Bundle.generate { contract with records := other } spec = Bundle.generate contract spec := by
  have registry := registry_of_fields contract other alike
  have script : Bundle.renderScript { contract with records := other } = Bundle.renderScript contract := by
    simp only [Bundle.renderScript, registry]
    rfl
  have declarations : Bundle.renderDeclarations { contract with records := other } =
      Bundle.renderDeclarations contract := by
    simp only [Bundle.renderDeclarations, registry]
    rfl
  simp only [Bundle.generate, script, declarations]
  rfl

end Contract

end ClientPackager
