import ClientPackager.Client.Identifier
import ClientPackager.Client.TypeText
import ClientPackager.Contract
import ClientPackager.Template.Library
import ClientPackager.Text.Basic

set_option autoImplicit false

namespace ClientPackager.Client

-- A text that cannot end the comment it stands in: each asterisk and slash get a
-- backslash between them.
def guardComment : List Char → List Char
  | '*' :: '/' :: rest => '*' :: '\\' :: '/' :: guardComment rest
  | c :: rest => c :: guardComment rest
  | [] => []

def descriptionLines (method : Contract.Method) : List String :=
  let all := (Text.lines (method.description.getD "")).map Text.trim
  (all.filter (· ≠ "")).map fun line => String.ofList (guardComment line.toList)

def docLines (method : Contract.Method) : List String :=
  descriptionLines method ++ if method.deprecated then ["@deprecated"] else []

def paramIdentifiers (method : Contract.Method) : List String :=
  method.params.map fun param => identifier param.name

namespace Script

def strings (all : List String) : Json := .array (all.map .string)

def braced (text : String) : String := "\x7b" ++ text ++ "\x7d"

def arrayLiteral : List String → String
  | [name] => name
  | names => "[" ++ ", ".intercalate names ++ "]"

-- A channel passes its stream first and then what leads it, any other call its only
-- value or an array of all.
def callArguments (mode : Mode) (names : List String) : String :=
  match names with
  | [] => ""
  | [name] => ", " ++ name
  | _ =>
    if mode = .requestChannel then
      ", " ++ names.getLast?.getD "" ++ ", " ++ arrayLiteral names.dropLast
    else ", " ++ arrayLiteral names

def paramType (registry : Registry) (param : Contract.Param) : String :=
  match param.typedef with
  | some typedef => typedef.name
  | none => registry.runtimeText param.type

def paramTarget (param : Contract.Param) (name : String) : String :=
  if param.required then name
  else match param.defaultValue with
    | some value => if Text.blank value then "[" ++ name ++ "]" else "[" ++ name ++ "=" ++ value ++ "]"
    | none => "[" ++ name ++ "]"

def paramTag (registry : Registry) (param : Contract.Param) (name : String) : String :=
  "@param " ++ braced (paramType registry param) ++ " " ++ paramTarget param name

def orNull (method : Contract.Method) (type : String) : String :=
  if method.resultNullable then "(" ++ type ++ "|null)" else type

def resultType (registry : Registry) (method : Contract.Method) : String :=
  match method.mode with
  | .fireAndForget => "Promise<boolean>"
  | .requestResponse => "Promise<" ++ orNull method (registry.runtimeText method.result) ++ ">"
  | .requestStream | .requestChannel =>
    "Observable<" ++ orNull method (registry.runtimeText method.result.delivered) ++ ">"

def methodContext (registry : Registry) (method : Contract.Method) : Json :=
  let names := paramIdentifiers method
  let tags := method.params.map fun param => paramTag registry param (identifier param.name)
  .object [
    ("name", .string method.name),
    ("params", .string (", ".intercalate names)),
    ("primitive", .string method.mode.primitive),
    ("args", .string (callArguments method.mode names)),
    ("doc", strings (docLines method ++ tags ++ ["@return " ++ braced (resultType registry method)]))]

def propertyContext (name type description : String) : Json :=
  .object [
    ("name", .string name), ("type", .string (braced type)), ("description", .string description)]

def definitionContext (registry : Registry) (definition : Definition) : Json :=
  .object [
    ("name", .string definition.name),
    ("properties", .array (definition.properties.map fun field =>
      propertyContext field.name (registry.runtimeText field.type) ""))]

def typedefContext (typedef : Typedef) : Json :=
  .object [
    ("name", .string typedef.name),
    ("properties", .array (typedef.properties.map fun property =>
      propertyContext property.name property.type (property.description.getD "")))]

def typeContexts (registry : Registry) : List Json :=
  registry.definitions.map (definitionContext registry) ++ registry.typedefs.map typedefContext

def fragment (library : Template.Library) (name : String) (context : Json) : Outcome String :=
  (library.render name context).map Text.trimEnd

def render (library : Template.Library) (contract : Contract) (registry : Registry) :
    Outcome String := do
  let methods ← contract.methods.mapM fun method =>
    fragment library "rsocket/method.js" (methodContext registry method)
  let types ← (typeContexts registry).mapM (fragment library "rsocket/typedef.js")
  library.render "rsocket/index.js" (.object [
    ("generated_from", .string contract.typeName),
    ("class_name", .string contract.className),
    ("class_type", .string (braced contract.className)),
    ("route", .string contract.route.text),
    ("methods", .string ("\n\n".intercalate methods)),
    ("typedefs", .string ("\n".intercalate types))])

end Script
end ClientPackager.Client
