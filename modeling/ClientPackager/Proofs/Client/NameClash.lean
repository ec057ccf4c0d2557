import ClientPackager.Contract.OfReflection
import ClientPackager.Proofs.Client.Agreement
import ClientPackager.Proofs.Client.Bindings
import ClientPackager.Proofs.Client.Identifier
import ClientPackager.Proofs.Registry.Naming

set_option autoImplicit false

namespace ClientPackager.Client

open Contract (Method)
open ClientPackager.Client.Span (spelled)

theorem local_names_distinct (names : List String) : (names.map localName).Nodup ↔
    names.Nodup ∧ ∀ name ∈ names, isReserved name = true → identifier name ∉ names := by
  have aliased (name : String) (reserved : isReserved name = true) : localName name = name ++ "_" := by
    rw [localName, if_pos reserved, alias_of_reserved name reserved]
  have plain (name : String) (free : isReserved name = false) : localName name = name := by
    rw [localName, if_neg (by simp [free])]
  constructor
  · intro distinct
    refine ⟨distinct.of_map _, fun name listed reserved taken => ?_⟩
    rw [alias_of_reserved name reserved] at taken
    have same : name = name ++ "_" := by
      apply List.inj_on_of_nodup_map distinct listed taken
      rw [aliased name reserved, plain _ (alias_not_reserved name)]
    exact absurd (congrArg String.length same) (by simp)
  · rintro ⟨distinct, free⟩
    refine distinct.map_on fun name listed other member same => ?_
    cases first : isReserved name <;> cases second : isReserved other
    · rwa [plain name first, plain other second] at same
    · rw [plain name first, localName, if_pos second] at same
      exact absurd (same ▸ listed) (free other member second)
    · rw [plain other second, localName, if_pos first] at same
      exact absurd (same ▸ member) (free name listed first)
    · rw [aliased name first, aliased other second] at same
      exact String.append_left_inj "_" |>.mp same

theorem local_name_fixed (name : String) : localName name ∈ fixedBindings ↔ name ∈ fixedBindings := by
  rw [localName]
  split
  · next reserved =>
      have apart : name ++ "_" ∉ fixedBindings := by
        intro listed
        have ends : ∀ word ∈ fixedBindings, word.toList.getLast? ≠ some '_' := by decide +kernel
        exact ends _ listed (by simp)
      have free : ∀ word ∈ fixedBindings, isReserved word = false := by decide +kernel
      rw [alias_of_reserved name reserved]
      exact ⟨fun listed => absurd listed apart, fun listed => absurd reserved (by simp [free name listed])⟩
  · rfl

theorem fresh_name_marked (registry : Registry) (base : String) (marked : '_' ∈ base.toList) :
    '_' ∈ (registry.freshName base).toList := by
  rcases Registry.fresh_name_first_free registry base with ⟨_, same⟩ | ⟨_, k, _, same, _⟩
  · rwa [same]
  · rw [same, String.toList_append, String.toList_append, List.mem_append, List.mem_append]
    exact .inl (.inl marked)

def Marked (registry : Registry) : Prop := ∀ definition ∈ registry.definitions, '_' ∈ definition.name.toList

theorem definitions_marked (contract : Contract) : Marked (Registry.ofContract contract) := by
  rw [Registry.of_contract_uses]
  apply Registry.register_uses_preserves contract.records Marked (Registry.uses contract)
  · intro use _ registry before
    apply Registry.visit_preserves contract.records use.1 fun later _ => Marked later
    · intro later id rest _ marked definition listed
      rcases List.mem_append.mp listed with old | new
      · exact marked definition old
      · rw [List.mem_singleton.mp new]
        exact fresh_name_marked later _ (by simp)
    · exact fun _ _ _ _ marked => marked
    · exact before
  · have none : (Registry.declared contract).definitions = [] := Registry.typedefs_define_nothing _ _
    simp [Marked, none]

-- A typedef keeps its name as it stands; the name of a record is joined to that
-- of a method.
theorem classes_avoid_fixed (contract : Contract) :
    (∀ name ∈ (Registry.ofContract contract).names, name ∉ fixedBindings) ↔
      ∀ typedef ∈ (Registry.ofContract contract).typedefs, typedef.name ∉ fixedBindings := by
  have unmarked : ∀ name ∈ fixedBindings, '_' ∉ name.toList := by decide +kernel
  rw [Registry.names, List.forall_mem_append, List.forall_mem_map, List.forall_mem_map]
  refine ⟨fun apart => apart.2, fun apart => ⟨fun definition listed fixed => ?_, apart⟩⟩
  exact unmarked _ fixed (definitions_marked contract definition listed)

theorem bound_distinct (contract : Contract) (names : List String) :
    (fixedBindings ++ names.map localName ++ (Registry.ofContract contract).names).Nodup ↔
      names.Nodup ∧ (∀ name ∈ names, isReserved name = true → identifier name ∉ names) ∧
        (∀ name ∈ names, name ∉ fixedBindings ∧ localName name ∉ (Registry.ofContract contract).names) ∧
        ∀ typedef ∈ (Registry.ofContract contract).typedefs, typedef.name ∉ fixedBindings := by
  have fixed : fixedBindings.Nodup := by decide +kernel
  have classes := Registry.of_contract_names contract
  have locals : fixedBindings.Disjoint (names.map localName) ↔ ∀ name ∈ names, name ∉ fixedBindings := by
    simp only [List.disjoint_right, List.forall_mem_map, local_name_fixed]
  have apart : (names.map localName).Disjoint (Registry.ofContract contract).names ↔
      ∀ name ∈ names, localName name ∉ (Registry.ofContract contract).names := by
    rw [List.disjoint_left, List.forall_mem_map]
  rw [List.nodup_append', List.nodup_append', List.disjoint_append_left, ← classes_avoid_fixed, local_names_distinct,
    locals, apart, List.disjoint_right, forall₂_and]
  constructor
  · rintro ⟨⟨_, ⟨distinct, aliases⟩, avoid⟩, _, others, unused⟩
    exact ⟨distinct, aliases, ⟨avoid, unused⟩, others⟩
  · rintro ⟨distinct, aliases, ⟨avoid, unused⟩, others⟩
    exact ⟨⟨fixed, ⟨distinct, aliases⟩, avoid⟩, classes, others, unused⟩

theorem members_distinct (names : List String) :
    (ownMembers ++ names).Nodup ↔ names.Nodup ∧ ∀ name ∈ names, name ∉ ownMembers := by
  have own : ownMembers.Nodup := by decide +kernel
  rw [List.nodup_append', List.disjoint_right]
  exact ⟨fun all => all.2, fun all => ⟨own, all⟩⟩

theorem operation_names (contract : Contract) :
    (Interface.ofContract contract).operations.map Operation.name = contract.methods.map Method.name := by
  simp [Interface.ofContract, Operation.ofMethod]

theorem top_level_names (contract : Contract) (name : RecordId → String) :
    declaredNames topLevel ((Interface.ofContract contract).declarationSpans name contract) =
      fixedBindings ++ (contract.methods.map Method.name).map localName ++ (Registry.ofContract contract).names := by
  have locals : (Interface.ofContract contract).operations.map Operation.localName =
      (contract.methods.map Method.name).map localName := by
    simp [← operation_names, local_name_of]
  rw [declarations_declare, locals, shape_names]

theorem member_names (contract : Contract) (name : RecordId → String) :
    declaredNames classMembers ((Interface.ofContract contract).scriptSpans name contract) =
      ownMembers ++ contract.methods.map Method.name := by
  rw [script_declares, operation_names]

theorem names_clash_through_methods_and_typedefs (contract : Contract) :
    let registry := Registry.ofContract contract
    let names := contract.methods.map Method.name
    let declarations := (Interface.ofContract contract).declarationSpans (registry.nameOr "any") contract
    let script := (Interface.ofContract contract).scriptSpans (registry.nameOr "Object") contract
    let bound := declaredNames topLevel declarations
    let members := declaredNames classMembers script
    Bundle.renderDeclarations contract = .ok (spelled declarations) ∧
      Bundle.renderScript contract = .ok (spelled script) ∧
      bound = fixedBindings ++ names.map localName ++ registry.names ∧
      members = ownMembers ++ names ∧
      (bound.Nodup ↔ names.Nodup ∧ (∀ name ∈ names, isReserved name = true → identifier name ∉ names) ∧
        (∀ name ∈ names, name ∉ fixedBindings ∧ localName name ∉ registry.names) ∧
        ∀ typedef ∈ registry.typedefs, typedef.name ∉ fixedBindings) ∧
      (members.Nodup ↔ names.Nodup ∧ ∀ name ∈ names, name ∉ ownMembers) := by
  intro registry names declarations script bound members
  have declared : spelled declarations = _ := declarations_spelled _ _ _
  have written : spelled script = _ := script_spelled _ _ _
  have boundNames : bound = fixedBindings ++ names.map localName ++ registry.names := top_level_names contract _
  have memberNames : members = ownMembers ++ names := member_names contract _
  rw [boundNames, memberNames]
  exact ⟨declared ▸ render_declarations contract, written ▸ render_script contract, rfl, rfl,
    bound_distinct contract names, members_distinct names⟩

-- The alias of one method is the name of another one.
def shredderDocument : Reflection :=
  ⟨"org.demo.ShredderImpl", some "org.demo.Shredder", none,
    [⟨"delete", some .direct, false, none, false, [], "void"⟩,
      ⟨"delete_", some .direct, false, none, false, [], "void"⟩], []⟩

def shredderContract : Contract :=
  ⟨⟨"org.demo.Shredder"⟩, "org.demo.ShredderImpl", none, .declaration,
    [⟨"delete", [], .void, false, none, false, .fireAndForget, false, .void⟩,
      ⟨"delete_", [], .void, false, none, false, .fireAndForget, false, .void⟩], ⟨[]⟩⟩

theorem shredder_binds_alias_twice :
    let declarations := (Interface.ofContract shredderContract).declarationSpans
      ((Registry.ofContract shredderContract).nameOr "any") shredderContract
    Contract.ofReflection .declaration shredderDocument = .ok shredderContract ∧
      (shredderContract.methods.map Method.name).Nodup ∧
      Bundle.renderDeclarations shredderContract = .ok (spelled declarations) ∧
      ¬ (declaredNames topLevel declarations).Nodup := by
  intro declarations
  have declared : spelled declarations = _ := declarations_spelled _ _ _
  have reserved : isReserved "delete" = true := by decide +kernel
  refine ⟨rfl, by decide, declared ▸ render_declarations shredderContract, fun distinct => ?_⟩
  rw [top_level_names] at distinct
  have free := ((bound_distinct shredderContract _).mp distinct).2.1 "delete" (by simp [shredderContract]) reserved
  rw [alias_of_reserved "delete" reserved] at free
  exact free (by simp [shredderContract])

end ClientPackager.Client
