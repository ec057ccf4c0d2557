import ClientPackager.Package.Bundle
import ClientPackager.Proofs.Client.Block
import ClientPackager.Proofs.Client.Interface

set_option autoImplicit false

namespace ClientPackager.Client

open Contract (Method Param)
open Template

variable (name : RecordId → String)

def TypeUse.runtimeText : TypeUse → String
  | .typedef given => given
  | .verbatim text => text
  | .mapped type => Registry.runtimeTextBy name type

def Argument.target (argument : Argument) : String :=
  if argument.optional then
    "[" ++ argument.identifier ++ (match argument.fallback with
      | some value => if Text.blank value then "" else "=" ++ value
      | none => "") ++ "]"
  else argument.identifier

def Argument.tag (argument : Argument) : String :=
  "@param " ++ Script.braced (argument.type.runtimeText name) ++ " " ++ argument.target

def Answer.runtimeText : Answer → String
  | .nothing => "Promise<boolean>"
  | .delivery wrapper type nullable =>
    wrapper.text ++ "<" ++ (if nullable then "(" ++ Registry.runtimeTextBy name type ++ "|null)"
      else Registry.runtimeTextBy name type) ++ ">"

def Operation.scriptDoc (operation : Operation) : List String :=
  operation.doc ++ operation.arguments.map (Argument.tag name) ++
    ["@return " ++ Script.braced (operation.answer.runtimeText name)]

def Operation.script (operation : Operation) : String :=
  let identifiers := operation.arguments.map Argument.identifier
  String.join ["    /**\n", commentLines "     * " (operation.scriptDoc name), "     */\n    ",
    operation.name, "(", ", ".intercalate identifiers, ") \x7b\n        return this.", operation.mode.primitive,
    "(", (Json.string operation.name).compact, Script.callArguments operation.mode identifiers, ");\n    \x7d"]

def Member.script (member : Member) : String :=
  String.join [" * @property ", Script.braced (member.type.runtimeText name), " ", member.name,
    if member.description = "" then "" else " " ++ member.description, "\n"]

def Shape.script (shape : Shape) : String :=
  String.join ["/**\n * @typedef \x7bObject\x7d ", shape.name, "\n",
    String.join (shape.members.map (Member.script name)), " */"]

def Interface.script (contract : Contract) (interface : Interface) : String :=
  String.join ["// Generated from ", contract.typeName, scriptPrelude, contract.className, scriptConstructor,
    (Json.string contract.route.text).compact, scriptPrimitives, Script.braced contract.className, scriptReceiver,
    blocks "\n" "\n\n" (interface.operations.map (Operation.script name)), scriptExport, contract.className,
    typedefHeading, blocks "" "\n" (interface.shapes.map (Shape.script name))]

theorem param_tag_of (registry : Registry) (param : Param) :
    Script.paramTag registry param (identifier param.name) =
      (Argument.ofParam param).tag (registry.nameOr "Object") := by
  have type : Script.paramType registry param =
      (Argument.ofParam param).type.runtimeText (registry.nameOr "Object") := by
    cases given : param.typedef <;> simp only [Script.paramType, Argument.ofParam, given] <;> rfl
  have target : Script.paramTarget param (identifier param.name) = (Argument.ofParam param).target := by
    rcases param with ⟨word, declared, required, fallback, typedef⟩
    cases required <;> cases fallback <;> simp [Script.paramTarget, Argument.target, Argument.ofParam]
    split <;> simp [String.append_assoc]
  rw [Script.paramTag, Argument.tag, type, target]

theorem result_type_of (registry : Registry) (method : Method) :
    Script.resultType registry method = (Answer.ofMethod method).runtimeText (registry.nameOr "Object") := by
  cases mode : method.mode <;>
    simp [Script.resultType, Answer.ofMethod, Answer.runtimeText, Script.orNull, Wrapper.text, mode] <;> rfl

def Operation.scriptContext (operation : Operation) : Json :=
  let identifiers := operation.arguments.map Argument.identifier
  .object [
    ("name", .string operation.name),
    ("params", .string (", ".intercalate identifiers)),
    ("primitive", .string operation.mode.primitive),
    ("args", .string (Script.callArguments operation.mode identifiers)),
    ("doc", Script.strings (operation.scriptDoc name))]

def Shape.scriptContext (shape : Shape) : Json :=
  .object [
    ("name", .string shape.name),
    ("properties", .array (shape.members.map fun member =>
      Script.propertyContext member.name (member.type.runtimeText name) member.description))]

theorem script_method_context (registry : Registry) (method : Method) :
    Script.methodContext registry method = (Operation.ofMethod method).scriptContext (registry.nameOr "Object") := by
  have words : (Operation.ofMethod method).arguments.map Argument.identifier = paramIdentifiers method := by
    simp only [Operation.ofMethod, List.map_map]
    rfl
  have doc : (Operation.ofMethod method).scriptDoc (registry.nameOr "Object") = docLines method ++
      (method.params.map fun param => Script.paramTag registry param (identifier param.name)) ++
      ["@return " ++ Script.braced (Script.resultType registry method)] := by
    simp only [Operation.scriptDoc, Operation.ofMethod, List.map_map, result_type_of, param_tag_of]
    rfl
  rw [Operation.scriptContext, words, doc]
  rfl

theorem script_type_contexts (registry : Registry) :
    Script.typeContexts registry = registry.shapes.map (Shape.scriptContext (registry.nameOr "Object")) := by
  simp only [Script.typeContexts, Registry.shapes, List.map_append, List.map_map]
  congr 1 <;> apply List.map_congr_left <;> intro part _ <;>
    simp [Script.definitionContext, Script.typedefContext, Shape.scriptContext, Shape.ofDefinition, Shape.ofTypedef,
      TypeUse.runtimeText, Registry.runtimeText]

theorem script_method_yields (operation : Operation) :
    Yields (operation.scriptContext name) scriptMethod (operation.script name ++ "\n") := by
  have derivation : Yields (operation.scriptContext name) scriptMethod _ :=
    yields_text "    /**\n" <|
    yields_each ["doc"] _ Json.string _ _ rfl (fun text _ => comment_line_yields "     * " text) <|
    yields_text "     */\n    " <|
    yields_value ["name"] _ rfl <|
    yields_text "(" <|
    yields_value ["params"] _ rfl <|
    yields_text ") \x7b\n        return this." <|
    yields_value ["primitive"] _ rfl <|
    yields_text "(" <|
    yields_json ["name"] _ rfl <|
    yields_value ["args"] _ rfl <|
    yields_text _ yields_nil
  simpa [Operation.script, commentLines, write, Json.normal, lines, String.append_assoc] using derivation

theorem script_member_yields (member : Member) :
    Yields (Script.propertyContext member.name (member.type.runtimeText name) member.description)
      [.text " * @property ", .value ["type"], .text " ", .value ["name"],
        .block "if" [.field ["description"]] [.text " ", .value ["description"]] none, .text "\n"]
      (member.script name) := by
  have derivation : Yields (Script.propertyContext member.name (member.type.runtimeText name) member.description) _ _ :=
    yields_text " * @property " <|
    yields_value ["type"] _ rfl <|
    yields_text " " <|
    yields_value ["name"] _ rfl <|
    yields_if ["description"] _ _ _ rfl
      (fun _ => yields_text " " (yields_value ["description"] (.string member.description) rfl yields_nil)) <|
    yields_text "\n" yields_nil
  by_cases empty : member.description = "" <;>
    simpa [Member.script, empty, holds, write, String.append_assoc] using derivation

theorem script_shape_yields (shape : Shape) :
    Yields (shape.scriptContext name) scriptTypedef (shape.script name ++ "\n") := by
  have derivation : Yields (shape.scriptContext name) scriptTypedef _ :=
    yields_text "/**\n * @typedef \x7bObject\x7d " <|
    yields_value ["name"] _ rfl <|
    yields_text "\n" <|
    yields_each ["properties"] shape.members _ _ _ rfl (fun member _ => script_member_yields name member) <|
    yields_text " */\n" yields_nil
  simpa [Shape.script, write, String.append_assoc] using derivation

theorem operation_script_closed (operation : Operation) : Closed (operation.script name) :=
  closed_join _ ");\n    \x7d" '}' rfl rfl rfl

theorem shape_script_closed (shape : Shape) : Closed (shape.script name) :=
  closed_join _ " */" '/' rfl rfl rfl

def Interface.scriptContext (contract : Contract) (interface : Interface) : Json :=
  .object [
    ("generated_from", .string contract.typeName),
    ("class_name", .string contract.className),
    ("class_type", .string (Script.braced contract.className)),
    ("route", .string contract.route.text),
    ("methods", .string ("\n\n".intercalate (interface.operations.map (Operation.script name)))),
    ("typedefs", .string ("\n".intercalate (interface.shapes.map (Shape.script name))))]

theorem script_module_yields (contract : Contract) (interface : Interface) :
    Yields (interface.scriptContext name contract) scriptModule (interface.script name contract) := by
  have methods := holds_joined "\n\n" interface.operations (Operation.script name) (operation_script_closed name)
  have typedefs := holds_joined "\n" interface.shapes (Shape.script name) (shape_script_closed name)
  have derivation : Yields (interface.scriptContext name contract) scriptModule _ :=
    yields_text "// Generated from " <|
    yields_value ["generated_from"] _ rfl <|
    yields_text scriptPrelude <|
    yields_value ["class_name"] _ rfl <|
    yields_text scriptConstructor <|
    yields_json ["route"] _ rfl <|
    yields_text scriptPrimitives <|
    yields_value ["class_type"] _ rfl <|
    yields_text scriptReceiver <|
    yields_if ["methods"] _ _ _ rfl (fun _ => yields_text "\n" (yields_value ["methods"] _ rfl (yields_text "\n" yields_nil))) <|
    yields_text scriptExport <|
    yields_value ["class_name"] _ rfl <|
    yields_text typedefHeading <|
    yields_if ["typedefs"] _ _ _ rfl (fun _ => yields_value ["typedefs"] _ rfl (yields_text "\n" yields_nil)) <|
    yields_nil
  rw [methods, typedefs] at derivation
  simpa [Interface.script, blocks, write, Json.normal, String.append_assoc] using derivation

section Rendering

variable (library : Library) (equipped : Equipped library) (contract : Contract) (registry : Registry)

include equipped

theorem script_methods_render :
    (contract.methods.mapM fun method => Script.fragment library "rsocket/method.js"
        (Script.methodContext registry method)) =
      .ok ((Interface.under registry contract).operations.map (Operation.script (registry.nameOr "Object"))) := by
  simp only [script_method_context, Interface.under, List.map_map, Function.comp_def]
  exact fragments_render library equipped "rsocket/method.js" scriptMethod contract.methods _ _ rfl
    (fun method => script_method_yields _ (Operation.ofMethod method))
    (fun method => operation_script_closed _ (Operation.ofMethod method))

theorem script_types_render :
    (Script.typeContexts registry).mapM (Script.fragment library "rsocket/typedef.js") =
      .ok (registry.shapes.map (Shape.script (registry.nameOr "Object"))) := by
  rw [script_type_contexts registry, List.mapM_map]
  exact fragments_render library equipped "rsocket/typedef.js" scriptTypedef _ _ _ rfl
    (script_shape_yields _) (shape_script_closed _)

theorem script_renders :
    Script.render library contract registry =
      .ok ((Interface.under registry contract).script (registry.nameOr "Object") contract) := by
  rw [Script.render, script_methods_render library equipped, script_types_render library equipped]
  exact equipped_renders library equipped "rsocket/index.js" scriptModule _ rfl
    (script_module_yields _ contract (Interface.under registry contract))

end Rendering

theorem render_script (contract : Contract) :
    Bundle.renderScript contract =
      .ok ((Interface.ofContract contract).script ((Registry.ofContract contract).nameOr "Object") contract) := by
  rw [interface_of_contract]
  exact script_renders .standard standard_equipped contract (Registry.ofContract contract)

end ClientPackager.Client
