import ClientPackager.Package.Bundle
import ClientPackager.Proofs.Client.Block
import ClientPackager.Proofs.Client.Interface
import ClientPackager.Proofs.Client.TypeReading

set_option autoImplicit false

namespace ClientPackager.Client

open Contract (Method Param)
open Template

variable (name : RecordId → String)

def TypeUse.staticText : TypeUse → String
  | .typedef given => given
  | .verbatim text => text
  | .mapped type => Registry.staticTextBy name type

def Argument.declaration (argument : Argument) (last : Bool) : String :=
  if !argument.optional then argument.identifier ++ ": " ++ argument.type.staticText name
  else if last then argument.identifier ++ "?: " ++ argument.type.staticText name
  else argument.identifier ++ ": " ++ argument.type.staticText name ++ " | undefined"

-- Only optional arguments may follow one with a question mark.
def signature : List Argument → List String
  | [] => []
  | argument :: rest => argument.declaration name (rest.all Argument.optional) :: signature rest

def Answer.staticText : Answer → String
  | .nothing => "Promise<void>"
  | .delivery wrapper type nullable =>
    wrapper.text ++ "<" ++ Registry.staticTextBy name type ++ (if nullable then " | null" else "") ++ ">"

def docSection (doc : List String) : String :=
  if doc = [] then "" else String.join ["/**\n", commentLines " * " doc, " */\n"]

theorem doc_section_ends (doc : List String) : docSection doc = "" ∨ ∃ front, docSection doc = front ++ "\n" := by
  rw [docSection]
  split
  · exact .inl rfl
  · exact .inr ⟨String.join ["/**\n", commentLines " * " doc, " */"], by simp [String.append_assoc]⟩

-- A reserved word cannot be declared, but it can be exported.
def Operation.alias? (operation : Operation) : Option String :=
  if isReserved operation.name then some (identifier operation.name) else none

def Operation.exportText (operation : Operation) : String :=
  let rest := String.join ["(", ", ".intercalate (signature name operation.arguments), "): ",
    operation.answer.staticText name]
  match operation.alias? with
  | some word =>
    String.join ["declare function ", word, rest, ";\nexport \x7b ", word, " as ", operation.name, " \x7d;"]
  | none => String.join ["export function ", operation.name, rest, ";"]

def Operation.declaration (operation : Operation) : String :=
  docSection operation.doc ++ operation.exportText name

def Member.declaration (member : Member) : String :=
  String.join ["    ", member.name, ": ", member.type.staticText name, ";\n"]

def Shape.declaration (shape : Shape) : String :=
  String.join ["declare class ", shape.name, " \x7b\n",
    String.join (shape.members.map (Member.declaration name)), "\x7d"]

def Interface.declarations (contract : Contract) (interface : Interface) : String :=
  String.join ["// Generated from ", contract.typeName, declarationPrelude,
    blocks "\n" "\n\n" (interface.operations.map (Operation.declaration name)), classHeading,
    blocks "" "\n\n" (interface.shapes.map (Shape.declaration name))]

theorem signature_of (registry : Registry) (params : List Param) :
    Declarations.signature registry params = signature (registry.nameOr "any") (params.map Argument.ofParam) := by
  induction params with
  | nil => rfl
  | cons param rest ih =>
      have type : Declarations.paramType registry param =
          (Argument.ofParam param).type.staticText (registry.nameOr "any") := by
        cases given : param.typedef <;> simp only [Declarations.paramType, Argument.ofParam, given] <;> rfl
      have later : (rest.map Argument.ofParam).all Argument.optional = rest.all fun later => !later.required := by
        simp only [List.all_map]
        rfl
      rw [Declarations.signature, List.map_cons, signature, later, ih, type]
      cases required : param.required <;> simp [Argument.declaration, Argument.ofParam, required]

theorem declared_result_of (registry : Registry) (method : Method) :
    Declarations.resultType registry method = (Answer.ofMethod method).staticText (registry.nameOr "any") := by
  cases mode : method.mode <;> cases nullable : method.resultNullable <;>
    simp [Declarations.resultType, Answer.ofMethod, Answer.staticText, Declarations.orNull, Wrapper.text, mode,
      nullable, String.append_assoc] <;> rfl

def Operation.declarationContext (operation : Operation) : Json :=
  .object [
    ("name", .string operation.name),
    ("alias", .optional operation.alias?),
    ("params", .string (", ".intercalate (signature name operation.arguments))),
    ("returns", .string (operation.answer.staticText name)),
    ("doc", Script.strings operation.doc)]

def Shape.declarationContext (shape : Shape) : Json :=
  .object [
    ("name", .string shape.name),
    ("properties", .array (shape.members.map fun member =>
      Declarations.propertyContext member.name (member.type.staticText name)))]

def Interface.declarationContext (contract : Contract) (interface : Interface) : Json :=
  .object [
    ("generated_from", .string contract.typeName),
    ("functions", .string ("\n\n".intercalate (interface.operations.map (Operation.declaration name)))),
    ("classes", .string ("\n\n".intercalate (interface.shapes.map (Shape.declaration name))))]

theorem function_context (registry : Registry) (method : Method) :
    Declarations.functionContext registry method =
      (Operation.ofMethod method).declarationContext (registry.nameOr "any") := by
  rw [Declarations.functionContext, signature_of, declared_result_of]
  rfl

theorem declaration_type_contexts (registry : Registry) :
    Declarations.typeContexts registry = registry.shapes.map (Shape.declarationContext (registry.nameOr "any")) := by
  simp only [Declarations.typeContexts, Registry.shapes, List.map_append, List.map_map]
  congr 1 <;> apply List.map_congr_left <;> intro part _ <;>
    simp [Declarations.definitionContext, Declarations.typedefContext, Shape.declarationContext,
      Shape.ofDefinition, Shape.ofTypedef, TypeUse.staticText, Registry.staticText]

theorem identifier_ne_empty (word : String) : identifier word ≠ "" := by
  simpa using (identifier_is_name word).1

theorem doc_yields (operation : Operation) (rest : List Template.Node) (later : String)
    (remaining : Yields (operation.declarationContext name) rest later) :
    Yields (operation.declarationContext name)
      (.block "if" [.field ["doc"]] [.text "/**\n",
        .block "each" [.field ["doc"]] [.text " * ", .value [], .text "\n"] none, .text " */\n"] none :: rest)
      (docSection operation.doc ++ later) := by
  have derivation : Yields (operation.declarationContext name) _ _ :=
    yields_if ["doc"] (Script.strings operation.doc) _ _ rfl
      (fun _ => yields_text "/**\n" <|
        yields_each ["doc"] operation.doc Json.string _ _ rfl (fun text _ => comment_line_yields " * " text) <|
        yields_text " */\n" yields_nil) remaining
  cases empty : operation.doc <;>
    simpa [docSection, commentLines, Script.strings, holds, empty, String.append_assoc] using derivation

theorem plain_export_yields (operation : Operation) (plain : operation.alias? = none) :
    Yields (operation.declarationContext name) (declarationFunction.drop 1) (operation.exportText name ++ "\n") := by
  have absent : find ["alias"] (operation.declarationContext name) = .ok (some .null) := by
    rw [Operation.declarationContext, plain]
    rfl
  have derivation : Yields (operation.declarationContext name) (declarationFunction.drop 1) _ :=
    yields_if ["alias"] .null _ "" absent (fun shown => by simp [holds] at shown) <|
    yields_unless ["alias"] .null _ _ absent
      (fun _ => yields_text "export function " <|
        yields_value ["name"] (.string operation.name) rfl <|
        yields_text "(" <|
        yields_value ["params"] (.string (", ".intercalate (signature name operation.arguments))) rfl <|
        yields_text "): " <|
        yields_value ["returns"] (.string (operation.answer.staticText name)) rfl <|
        yields_text ";\n" yields_nil) yields_nil
  simpa [Operation.exportText, plain, holds, write, String.append_assoc] using derivation

theorem alias_export_yields (operation : Operation) (word : String) (given : operation.alias? = some word) :
    Yields (operation.declarationContext name) (declarationFunction.drop 1) (operation.exportText name ++ "\n") := by
  have present : find ["alias"] (operation.declarationContext name) = .ok (some (.string word)) := by
    rw [Operation.declarationContext, given]
    rfl
  have solid : word ≠ "" := by
    simp only [Operation.alias?, Option.ite_none_right_eq_some, Option.some.injEq] at given
    exact given.2 ▸ identifier_ne_empty operation.name
  have derivation : Yields (operation.declarationContext name) (declarationFunction.drop 1) _ :=
    yields_if ["alias"] (.string word) _ _ present
      (fun _ => yields_text "declare function " <|
        yields_value ["alias"] (.string word) present <|
        yields_text "(" <|
        yields_value ["params"] (.string (", ".intercalate (signature name operation.arguments))) rfl <|
        yields_text "): " <|
        yields_value ["returns"] (.string (operation.answer.staticText name)) rfl <|
        yields_text ";\nexport \x7b " <|
        yields_value ["alias"] (.string word) present <|
        yields_text " as " <|
        yields_value ["name"] (.string operation.name) rfl <|
        yields_text " \x7d;\n" yields_nil) <|
    yields_unless ["alias"] (.string word) _ "" present (fun shown => by simp [holds, solid] at shown) yields_nil
  simpa [Operation.exportText, given, solid, holds, write, String.append_assoc] using derivation

theorem declaration_yields (operation : Operation) :
    Yields (operation.declarationContext name) declarationFunction (operation.declaration name ++ "\n") := by
  have exported : Yields (operation.declarationContext name) (declarationFunction.drop 1)
      (operation.exportText name ++ "\n") := by
    cases given : operation.alias? with
    | none => exact plain_export_yields name operation given
    | some word => exact alias_export_yields name operation word given
  have derivation := doc_yields name operation (declarationFunction.drop 1) _ exported
  rw [Operation.declaration, String.append_assoc]
  exact derivation

theorem declaration_member_yields (member : Member) :
    Yields (Declarations.propertyContext member.name (member.type.staticText name))
      [.text "    ", .value ["name"], .text ": ", .value ["type"], .text ";\n"] (member.declaration name) := by
  have derivation : Yields (Declarations.propertyContext member.name (member.type.staticText name)) _ _ :=
    yields_text "    " <|
    yields_value ["name"] _ rfl <|
    yields_text ": " <|
    yields_value ["type"] _ rfl <|
    yields_text ";\n" yields_nil
  simpa [Member.declaration, write, String.append_assoc] using derivation

theorem declaration_shape_yields (shape : Shape) :
    Yields (shape.declarationContext name) declarationClass (shape.declaration name ++ "\n") := by
  have derivation : Yields (shape.declarationContext name) declarationClass _ :=
    yields_text "declare class " <|
    yields_value ["name"] _ rfl <|
    yields_text " \x7b\n" <|
    yields_each ["properties"] shape.members _ _ _ rfl (fun member _ => declaration_member_yields name member) <|
    yields_text "\x7d\n" yields_nil
  simpa [Shape.declaration, write, String.append_assoc] using derivation

theorem operation_declaration_closed (operation : Operation) : Closed (operation.declaration name) := by
  have exported : Closed (operation.exportText name) := by
    rw [Operation.exportText]
    cases operation.alias? with
    | none => exact closed_join _ ";" ';' rfl rfl rfl
    | some word => exact closed_join _ " \x7d;" ';' rfl rfl rfl
  exact closed_append (docSection operation.doc) (operation.exportText name) exported

theorem shape_declaration_closed (shape : Shape) : Closed (shape.declaration name) :=
  closed_join _ "\x7d" '}' rfl rfl rfl

theorem declaration_module_yields (contract : Contract) (interface : Interface) :
    Yields (interface.declarationContext name contract) declarationModule (interface.declarations name contract) := by
  have functions :=
    holds_joined "\n\n" interface.operations (Operation.declaration name) (operation_declaration_closed name)
  have classes := holds_joined "\n\n" interface.shapes (Shape.declaration name) (shape_declaration_closed name)
  have derivation : Yields (interface.declarationContext name contract) declarationModule _ :=
    yields_text "// Generated from " <|
    yields_value ["generated_from"] _ rfl <|
    yields_text declarationPrelude <|
    yields_if ["functions"] _ _ _ rfl
      (fun _ => yields_text "\n" (yields_value ["functions"] _ rfl (yields_text "\n" yields_nil))) <|
    yields_text classHeading <|
    yields_if ["classes"] _ _ _ rfl (fun _ => yields_value ["classes"] _ rfl (yields_text "\n" yields_nil)) <|
    yields_nil
  rw [functions, classes] at derivation
  simpa [Interface.declarations, blocks, write, String.append_assoc] using derivation

section Rendering

variable (library : Library) (equipped : Equipped library) (contract : Contract) (registry : Registry)

include equipped

theorem functions_render :
    (contract.methods.mapM fun method => Script.fragment library "rsocket/function.d.ts"
        (Declarations.functionContext registry method)) =
      .ok ((Interface.under registry contract).operations.map (Operation.declaration (registry.nameOr "any"))) := by
  simp only [function_context, Interface.under, List.map_map, Function.comp_def]
  exact fragments_render library equipped "rsocket/function.d.ts" declarationFunction contract.methods _ _ rfl
    (fun method => declaration_yields _ (Operation.ofMethod method))
    (fun method => operation_declaration_closed _ (Operation.ofMethod method))

theorem classes_render :
    (Declarations.typeContexts registry).mapM (Script.fragment library "rsocket/class.d.ts") =
      .ok (registry.shapes.map (Shape.declaration (registry.nameOr "any"))) := by
  rw [declaration_type_contexts registry, List.mapM_map]
  exact fragments_render library equipped "rsocket/class.d.ts" declarationClass _ _ _ rfl
    (declaration_shape_yields _) (shape_declaration_closed _)

theorem declarations_render :
    Declarations.render library contract registry =
      .ok ((Interface.under registry contract).declarations (registry.nameOr "any") contract) := by
  rw [Declarations.render, functions_render library equipped, classes_render library equipped]
  exact equipped_renders library equipped "rsocket/index.d.ts" declarationModule _ rfl
    (declaration_module_yields _ contract (Interface.under registry contract))

end Rendering

theorem render_declarations (contract : Contract) :
    Bundle.renderDeclarations contract = .ok
      ((Interface.ofContract contract).declarations ((Registry.ofContract contract).nameOr "any") contract) := by
  rw [interface_of_contract]
  exact declarations_render .standard standard_equipped contract (Registry.ofContract contract)

end ClientPackager.Client
