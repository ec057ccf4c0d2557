import ClientPackager.Proofs.Client.Forwarding
import ClientPackager.Proofs.Client.Identifier
import ClientPackager.Proofs.Client.Optional

set_option autoImplicit false

namespace ClientPackager.Client

open Contract (Method Param)

theorem signature_names (registry : Registry) (method : Method) :
    ((Declarations.signature registry method.params).map fun shown => (readParam shown).name) =
      paramIdentifiers method := by
  rw [signature_written, paramIdentifiers]
  apply List.ext_getElem?
  intro position
  rw [List.getElem?_map, List.getElem?_mapIdx, List.getElem?_map]
  cases method.params[position]? with
  | none => rfl
  | some param => rw [Option.map_some, Option.map_some, Option.map_some, read_of_written]

theorem identifiers_distinct_iff (method : Method) : (paramIdentifiers method).Nodup ↔
    method.params.Pairwise fun first second => ¬ Clash first.name second.name := by
  rw [paramIdentifiers, List.Nodup, List.pairwise_map]
  simp only [ne_eq, same_identifier_iff]

-- Both files call a parameter by its identifier. They are told apart exactly if no
-- two names clash; a name clashes with itself.
theorem parameters_apart_iff (contract : Contract) : ∃ script declarations,
    Bundle.renderScript contract = .ok script ∧ Bundle.renderDeclarations contract = .ok declarations ∧
      ∀ method ∈ contract.methods,
        (∃ arguments, Dispatched script method (paramIdentifiers method) arguments) ∧
        (∃ params, Signed (Registry.ofContract contract) declarations method params ∧
          (params.map fun shown => (readParam shown).name) = paramIdentifiers method) ∧
        ((paramIdentifiers method).Nodup ↔
          method.params.Pairwise fun first second => ¬ Clash first.name second.name) := by
  refine ⟨_, _, render_script contract, render_declarations contract, fun method listed => ⟨?_, ?_, ?_⟩⟩
  · exact ⟨_, method_dispatched contract method listed⟩
  · exact ⟨_, method_signed contract method listed, signature_names _ method⟩
  · exact identifiers_distinct_iff method

def greeterDocument : Reflection :=
  ⟨"org.demo.GreeterImpl", some "org.demo.Greeter", none, [⟨"greet", some .direct, false, none, false,
    [⟨"first-name", "int", true, none, none⟩, ⟨"first_name", "int", true, none, none⟩], "int"⟩], []⟩

def greetMethod : Method :=
  ⟨"greet", [⟨"first-name", .number .int, true, none, none⟩, ⟨"first_name", .number .int, true, none, none⟩],
    .number .int, false, none, false, .requestResponse, false, .number .int⟩

def greeterContract : Contract :=
  ⟨⟨"org.demo.Greeter"⟩, "org.demo.GreeterImpl", none, .declaration, [greetMethod], ⟨[]⟩⟩

theorem greeter_described : Contract.ofReflection .declaration greeterDocument = .ok greeterContract := by
  have int : Contract.OfType ⟨[]⟩ "int" (.number .int) := ⟨⟨"int", [], 0⟩, rfl, by decide⟩
  exact sole_method_described _ _ _ greetMethod (by decide) (by decide) rfl ⟨rfl,
    .cons ⟨rfl, int, rfl, rfl, rfl⟩ (.cons ⟨rfl, int, rfl, rfl, rfl⟩ .nil), int, rfl, rfl, rfl, rfl, rfl⟩

theorem greeter_repeats_parameter :
    Contract.ofReflection .declaration greeterDocument = .ok greeterContract ∧ greetMethod ∈ greeterContract.methods ∧
      (greetMethod.params.map Param.name).Nodup ∧ ¬ (paramIdentifiers greetMethod).Nodup ∧
      ∃ script, Bundle.renderScript greeterContract = .ok script ∧
        ∃ arguments, Dispatched script greetMethod ["first_name", "first_name"] arguments := by
  have listed : greetMethod ∈ greeterContract.methods := List.mem_singleton.mpr rfl
  have identifiers : paramIdentifiers greetMethod = ["first_name", "first_name"] := by decide
  have dispatched := method_dispatched greeterContract greetMethod listed
  rw [identifiers] at dispatched
  refine ⟨greeter_described, listed, by decide, ?_, _, render_script greeterContract, _, dispatched⟩
  rw [identifiers]
  decide

end ClientPackager.Client
