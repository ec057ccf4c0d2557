import ClientPackager.Proofs.Client.DeclarationText
import ClientPackager.Proofs.Client.ScriptText
import ClientPackager.Proofs.Registry.Names
import ClientPackager.Proofs.Registry.Reachable

set_option autoImplicit false

namespace ClientPackager.Client

open Contract (Method Param Field)

def TypeUse.records : TypeUse → List RecordId
  | .typedef _ => []
  | .verbatim _ => []
  | .mapped type => type.records

section Naming

-- Two ways to name records that agree on the records of all types in question
-- give the same text.
variable (first second : RecordId → String)

theorem runtime_text_congr (type : Descriptor) (agree : ∀ id ∈ type.records, first id = second id) :
    Registry.runtimeTextBy first type = Registry.runtimeTextBy second type := by
  induction type with
  | single value ih => exact ih agree
  | record id => exact agree id (by simp [Descriptor.records])
  | list | stream | number | boolean | text | void | dateTime | binary => rfl

theorem static_text_congr (type : Descriptor) (agree : ∀ id ∈ type.records, first id = second id) :
    Registry.staticTextBy first type = Registry.staticTextBy second type := by
  induction type with
  | single value ih => exact ih agree
  | list element ih | stream element ih => simp only [Registry.staticTextBy, ih agree]
  | record id => exact agree id (by simp [Descriptor.records])
  | number | boolean | text | void | dateTime | binary => rfl

theorem runtime_type_congr (type : TypeUse) (agree : ∀ id ∈ type.records, first id = second id) :
    type.runtimeText first = type.runtimeText second := by
  cases type with
  | typedef | verbatim => rfl
  | mapped type => exact runtime_text_congr first second type agree

theorem static_type_congr (type : TypeUse) (agree : ∀ id ∈ type.records, first id = second id) :
    type.staticText first = type.staticText second := by
  cases type with
  | typedef | verbatim => rfl
  | mapped type => exact static_text_congr first second type agree

theorem argument_type_used (operation : Operation) (argument : Argument) (member : argument ∈ operation.arguments) :
    argument.type ∈ operation.types :=
  List.mem_append_left _ (List.mem_map_of_mem member)

theorem operation_script_congr (operation : Operation)
    (agree : ∀ type ∈ operation.types, ∀ id ∈ type.records, first id = second id) :
    operation.script first = operation.script second := by
  have tags : operation.arguments.map (Argument.tag first) = operation.arguments.map (Argument.tag second) := by
    apply List.map_congr_left
    intro argument member
    rw [Argument.tag, Argument.tag, runtime_type_congr first second argument.type
      (agree argument.type (argument_type_used operation argument member))]
  have answer : operation.answer.runtimeText first = operation.answer.runtimeText second := by
    cases given : operation.answer with
    | nothing => rfl
    | delivery wrapper type nullable =>
        have used : TypeUse.mapped type ∈ operation.types := by simp [Operation.types, Answer.types, given]
        simp only [Answer.runtimeText, runtime_text_congr first second type (agree _ used)]
  simp only [Operation.script, Operation.scriptDoc, tags, answer]

theorem signature_congr (arguments : List Argument)
    (agree : ∀ argument ∈ arguments, ∀ id ∈ argument.type.records, first id = second id) :
    signature first arguments = signature second arguments := by
  induction arguments with
  | nil => rfl
  | cons argument rest ih =>
      have later := ih fun other member => agree other (List.mem_cons_of_mem argument member)
      have type := static_type_congr first second argument.type (agree argument List.mem_cons_self)
      simp only [signature, Argument.declaration, later, type]

theorem operation_declaration_congr (operation : Operation)
    (agree : ∀ type ∈ operation.types, ∀ id ∈ type.records, first id = second id) :
    operation.declaration first = operation.declaration second := by
  have arguments : signature first operation.arguments = signature second operation.arguments :=
    signature_congr first second operation.arguments fun argument member =>
      agree argument.type (argument_type_used operation argument member)
  have answer : operation.answer.staticText first = operation.answer.staticText second := by
    cases given : operation.answer with
    | nothing => rfl
    | delivery wrapper type nullable =>
        have used : TypeUse.mapped type ∈ operation.types := by simp [Operation.types, Answer.types, given]
        simp only [Answer.staticText, static_text_congr first second type (agree _ used)]
  simp only [Operation.declaration, Operation.exportText, arguments, answer]

theorem shape_script_congr (shape : Shape)
    (agree : ∀ member ∈ shape.members, ∀ id ∈ member.type.records, first id = second id) :
    shape.script first = shape.script second := by
  have members : shape.members.map (Member.script first) = shape.members.map (Member.script second) := by
    apply List.map_congr_left
    intro member listed
    simp only [Member.script, runtime_type_congr first second member.type (agree member listed)]
  simp only [Shape.script, members]

theorem shape_declaration_congr (shape : Shape)
    (agree : ∀ member ∈ shape.members, ∀ id ∈ member.type.records, first id = second id) :
    shape.declaration first = shape.declaration second := by
  have members : shape.members.map (Member.declaration first) = shape.members.map (Member.declaration second) := by
    apply List.map_congr_left
    intro member listed
    simp only [Member.declaration, static_type_congr first second member.type (agree member listed)]
  simp only [Shape.declaration, members]

theorem operation_types_used (interface : Interface) (operation : Operation)
    (member : operation ∈ interface.operations) : operation.types ⊆ interface.types :=
  fun _ used => List.mem_append_left _ (List.mem_flatMap.mpr ⟨operation, member, used⟩)

theorem member_type_used (interface : Interface) (shape : Shape) (listed : shape ∈ interface.shapes)
    (member : Member) (inside : member ∈ shape.members) : member.type ∈ interface.types :=
  List.mem_append_right _ (List.mem_flatMap.mpr ⟨shape, listed, List.mem_map_of_mem inside⟩)

theorem texts_congr (contract : Contract) (interface : Interface)
    (agree : ∀ type ∈ interface.types, ∀ id ∈ type.records, first id = second id) :
    interface.script first contract = interface.script second contract ∧
      interface.declarations first contract = interface.declarations second contract := by
  have operations (operation : Operation) (member : operation ∈ interface.operations) :
      ∀ type ∈ operation.types, ∀ id ∈ type.records, first id = second id :=
    fun type used => agree type (operation_types_used interface operation member used)
  have shapes (shape : Shape) (listed : shape ∈ interface.shapes) :
      ∀ member ∈ shape.members, ∀ id ∈ member.type.records, first id = second id :=
    fun member inside => agree member.type (member_type_used interface shape listed member inside)
  have methods := List.map_congr_left fun operation member =>
    operation_script_congr first second operation (operations operation member)
  have typedefs := List.map_congr_left fun shape listed =>
    shape_script_congr first second shape (shapes shape listed)
  have functions := List.map_congr_left fun operation member =>
    operation_declaration_congr first second operation (operations operation member)
  have classes := List.map_congr_left fun shape listed =>
    shape_declaration_congr first second shape (shapes shape listed)
  constructor
  · simp only [Interface.script, methods, typedefs]
  · simp only [Interface.declarations, functions, classes]

end Naming

-- A typedef keeps its name; a record has its registered name and one member for
-- each field that the table knows.
def Interface.Declares (interface : Interface) (contract : Contract) : TypeUse → Prop
  | .typedef name => ∃ typedef ∈ Registry.typedefsOf contract, typedef.name = name ∧
      Shape.ofTypedef typedef ∈ interface.shapes
  | .verbatim _ => True
  | .mapped type => ∀ id ∈ type.records, ∃ shape ∈ interface.shapes,
      (Registry.ofContract contract).nameOf? id = some shape.name ∧
        shape.members = (contract.records.fieldsOf id).map fun field => ⟨field.name, .mapped field.type, ""⟩

theorem shape_names (contract : Contract) :
    (Interface.ofContract contract).shapes.map Shape.name = (Registry.ofContract contract).names := by
  simp only [Interface.ofContract, Registry.names, List.map_append, List.map_map]
  rfl

theorem mapped_declared (contract : Contract) (type : Descriptor) (mapped : Registry.Mapped contract type) :
    (Interface.ofContract contract).Declares contract (.mapped type) := by
  intro id named
  have progress := Registry.of_contract_progress contract
  have member := Registry.reachable_defined contract id (Registry.mapped_reachable contract type mapped id named)
  obtain ⟨definition, listed, rfl⟩ := List.mem_map.mp member
  refine ⟨Shape.ofDefinition definition, List.mem_append_left _ (List.mem_map_of_mem listed), ?_, ?_⟩
  · exact Registry.name_of_definition (Registry.ofContract contract) progress.distinct definition listed
  · rw [Shape.ofDefinition, progress.faithful definition listed]

theorem typedef_name_declared (contract : Contract) (typedef : Typedef)
    (listed : typedef ∈ Registry.typedefsOf contract) :
    (Interface.ofContract contract).Declares contract (.typedef typedef.name) := by
  obtain ⟨kept, given, same, member⟩ := Registry.typedef_declared contract typedef listed
  exact ⟨kept, given, same, List.mem_append_right _ (List.mem_map_of_mem member)⟩

theorem argument_declared (contract : Contract) (method : Method) (param : Param)
    (exported : method ∈ contract.methods) (taken : param ∈ method.params) :
    (Interface.ofContract contract).Declares contract (Argument.ofParam param).type := by
  cases given : param.typedef with
  | none =>
      simp only [Argument.ofParam, given]
      exact mapped_declared contract param.type (.param method param exported taken given)
  | some typedef =>
      simp only [Argument.ofParam, given]
      apply typedef_name_declared contract typedef
      exact List.mem_flatMap.mpr ⟨method, exported, List.mem_filterMap.mpr ⟨param, taken, given⟩⟩

theorem answer_declared (contract : Contract) (method : Method) (exported : method ∈ contract.methods)
    (type : TypeUse) (used : type ∈ (Answer.ofMethod method).types) :
    (Interface.ofContract contract).Declares contract type := by
  cases mode : method.mode <;> simp only [Answer.ofMethod, mode, Answer.types] at used
  case fireAndForget => simp at used
  case requestResponse =>
      rw [List.mem_singleton.mp used]
      exact mapped_declared contract _ (.answer method exported mode)
  case requestStream | requestChannel =>
      rw [List.mem_singleton.mp used]
      exact mapped_declared contract _ (.answers method exported (by rw [mode]; rfl))

theorem member_declared (contract : Contract) (shape : Shape) (listed : shape ∈ (Interface.ofContract contract).shapes)
    (member : Member) (inside : member ∈ shape.members) :
    (Interface.ofContract contract).Declares contract member.type := by
  rcases List.mem_append.mp listed with record | typedef
  · obtain ⟨definition, defined, rfl⟩ := List.mem_map.mp record
    obtain ⟨field, has, rfl⟩ := List.mem_map.mp inside
    exact mapped_declared contract field.type (.property definition field defined has)
  · obtain ⟨typedef, _, rfl⟩ := List.mem_map.mp typedef
    obtain ⟨property, _, rfl⟩ := List.mem_map.mp inside
    trivial

theorem used_type_declared (contract : Contract) (type : TypeUse)
    (used : type ∈ (Interface.ofContract contract).types) :
    (Interface.ofContract contract).Declares contract type := by
  rcases List.mem_append.mp used with inOperation | inShape
  · obtain ⟨operation, member, inside⟩ := List.mem_flatMap.mp inOperation
    obtain ⟨method, exported, rfl⟩ := List.mem_map.mp member
    rcases List.mem_append.mp inside with argument | answer
    · obtain ⟨argument, listed, rfl⟩ := List.mem_map.mp argument
      obtain ⟨param, taken, rfl⟩ := List.mem_map.mp listed
      exact argument_declared contract method param exported taken
    · exact answer_declared contract method exported type answer
  · obtain ⟨shape, listed, inside⟩ := List.mem_flatMap.mp inShape
    obtain ⟨member, has, rfl⟩ := List.mem_map.mp inside
    exact member_declared contract shape listed member has

-- Brackets in the comment of the module stand for a question mark or for an
-- undefined value in the declarations.
theorem optional_in_both (name : RecordId → String) (argument : Argument) (last : Bool) :
    argument.target = argument.identifier ↔
      argument.declaration name last = argument.identifier ++ ": " ++ argument.type.staticText name := by
  cases optional : argument.optional with
  | false => simp [Argument.target, Argument.declaration, optional]
  | true =>
      constructor
      · intro same
        have sizes := congrArg String.length same
        have bracket : "]".length = 1 := rfl
        simp only [Argument.target, optional, if_true, String.length_append, bracket] at sizes
        omega
      · intro same
        have sizes := congrArg String.length same
        have marked : "?: ".length = 3 := rfl
        have plain : ": ".length = 2 := rfl
        cases last <;> simp [Argument.declaration, optional, marked, plain] at sizes

-- Both files wrap an answer in the same word, and null stands in both or in neither.
theorem answer_in_both (name : RecordId → String) (answer : Answer) :
    (answer.runtimeText name).toList.takeWhile (· ≠ '<') = (answer.staticText name).toList.takeWhile (· ≠ '<') ∧
    (answer = .nothing → answer.runtimeText name = "Promise<boolean>" ∧ answer.staticText name = "Promise<void>") ∧
    ∀ wrapper type nullable, answer = .delivery wrapper type nullable →
      (answer.runtimeText name = wrapper.text ++ "<" ++ Registry.runtimeTextBy name type ++ ">" ↔ nullable = false) ∧
      (answer.staticText name = wrapper.text ++ "<" ++ Registry.staticTextBy name type ++ ">" ↔ nullable = false) := by
  refine ⟨?_, by rintro rfl; exact ⟨rfl, rfl⟩, ?_⟩
  · cases answer with
    | nothing =>
        simp only [Answer.runtimeText, Answer.staticText]
        decide
    | delivery wrapper type nullable =>
        simp only [Answer.runtimeText, Answer.staticText, String.toList_append, List.append_assoc]
        cases wrapper <;> rfl
  · rintro wrapper type nullable rfl
    cases nullable with
    | false => simp [Answer.runtimeText, Answer.staticText]
    | true =>
        simp only [Bool.true_eq_false, iff_false]
        constructor
        · intro same
          have sizes := congrArg String.length same
          have closing : "|null)".length = 6 := rfl
          simp only [Answer.runtimeText, if_true, String.length_append, closing] at sizes
          omega
        · intro same
          have sizes := congrArg String.length same
          have closing : " | null".length = 7 := rfl
          simp only [Answer.staticText, if_true, String.length_append, closing] at sizes
          omega

-- Every record that a file names is registered, so the word for an unknown
-- record stands nowhere.
theorem rendered_under_any_word (contract : Contract) (unknown : String) :
    Bundle.renderScript contract =
      .ok ((Interface.ofContract contract).script ((Registry.ofContract contract).nameOr unknown) contract) ∧
    Bundle.renderDeclarations contract =
      .ok ((Interface.ofContract contract).declarations ((Registry.ofContract contract).nameOr unknown) contract) := by
  have agree (word : String) : ∀ type ∈ (Interface.ofContract contract).types, ∀ id ∈ type.records,
      (Registry.ofContract contract).nameOr word id = (Registry.ofContract contract).nameOr unknown id := by
    intro type used id named
    have declared := used_type_declared contract type used
    cases type with
    | typedef | verbatim => simp [TypeUse.records] at named
    | mapped type =>
        obtain ⟨shape, _, found, _⟩ := declared id named
        simp only [Registry.nameOr, found, Option.getD_some]
  constructor
  · rw [render_script, (texts_congr _ _ contract _ (agree "Object")).1]
  · rw [render_declarations, (texts_congr _ _ contract _ (agree "any")).2]

theorem modules_describe_one_interface (contract : Contract) (unknown : String) :
    Bundle.renderScript contract =
      .ok ((Interface.ofContract contract).script ((Registry.ofContract contract).nameOr unknown) contract) ∧
    Bundle.renderDeclarations contract =
      .ok ((Interface.ofContract contract).declarations ((Registry.ofContract contract).nameOr unknown) contract) ∧
    (Interface.ofContract contract).shapes.map Shape.name =
      (Registry.ofContract contract).definitions.map Definition.name ++
        (Registry.ofContract contract).typedefs.map Typedef.name ∧
    ((Interface.ofContract contract).shapes.map Shape.name).Nodup ∧
    (∀ type ∈ (Interface.ofContract contract).types, (Interface.ofContract contract).Declares contract type) ∧
    (∀ operation ∈ (Interface.ofContract contract).operations, ∀ argument ∈ operation.arguments, ∀ last,
      argument.target = argument.identifier ↔
        argument.declaration ((Registry.ofContract contract).nameOr unknown) last = argument.identifier ++ ": " ++
          argument.type.staticText ((Registry.ofContract contract).nameOr unknown)) := by
  obtain ⟨script, declarations⟩ := rendered_under_any_word contract unknown
  refine ⟨script, declarations, shape_names contract, ?_, used_type_declared contract, ?_⟩
  · rw [shape_names]
    exact Registry.of_contract_names contract
  · exact fun _ _ argument _ last => optional_in_both _ argument last

namespace Registry

theorem name_or_defined (registry : Registry) (first second : String) (id : RecordId)
    (member : id ∈ registry.defined) : registry.nameOr first id = registry.nameOr second id := by
  obtain ⟨name, found⟩ := Option.isSome_iff_exists.mp ((name_of_is_some registry id).mpr member)
  simp only [nameOr, found, Option.getD_some]

end Registry

end ClientPackager.Client
