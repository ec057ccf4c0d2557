import ClientPackager.Client.Script

set_option autoImplicit false

namespace ClientPackager.Client.Declarations

def paramType (registry : Registry) (param : Contract.Param) : String :=
  match param.typedef with
  | some typedef => typedef.name
  | none => registry.staticText param.type

-- A parameter may be left out if all after it may; any other optional parameter may be
-- undefined.
def signature (registry : Registry) : List Contract.Param → List String
  | [] => []
  | param :: rest =>
    let name := identifier param.name
    let type := paramType registry param
    let text :=
      if param.required then name ++ ": " ++ type
      else if rest.all fun later => !later.required then name ++ "?: " ++ type
      else name ++ ": " ++ type ++ " | undefined"
    text :: signature registry rest

def orNull (method : Contract.Method) (type : String) : String :=
  if method.resultNullable then type ++ " | null" else type

def resultType (registry : Registry) (method : Contract.Method) : String :=
  match method.mode with
  | .fireAndForget => "Promise<void>"
  | .requestResponse => "Promise<" ++ orNull method (registry.staticText method.result) ++ ">"
  | .requestStream | .requestChannel =>
    "Observable<" ++ orNull method (registry.staticText method.result.delivered) ++ ">"

def alias? (method : Contract.Method) : Option String :=
  if isReserved method.name then some (identifier method.name) else none

def functionContext (registry : Registry) (method : Contract.Method) : Json :=
  .object [
    ("name", .string method.name),
    ("alias", .optional (alias? method)),
    ("params", .string (", ".intercalate (signature registry method.params))),
    ("returns", .string (resultType registry method)),
    ("doc", Script.strings (docLines method))]

def propertyContext (name type : String) : Json :=
  .object [("name", .string name), ("type", .string type)]

def definitionContext (registry : Registry) (definition : Definition) : Json :=
  .object [
    ("name", .string definition.name),
    ("properties", .array (definition.properties.map fun field =>
      propertyContext field.name (registry.staticText field.type)))]

def typedefContext (typedef : Typedef) : Json :=
  .object [
    ("name", .string typedef.name),
    ("properties", .array (typedef.properties.map fun property =>
      propertyContext property.name property.type))]

def typeContexts (registry : Registry) : List Json :=
  registry.definitions.map (definitionContext registry) ++ registry.typedefs.map typedefContext

def render (library : Template.Library) (contract : Contract) (registry : Registry) :
    Outcome String := do
  let functions ← contract.methods.mapM fun method =>
    Script.fragment library "rsocket/function.d.ts" (functionContext registry method)
  let classes ← (typeContexts registry).mapM (Script.fragment library "rsocket/class.d.ts")
  library.render "rsocket/index.d.ts" (.object [
    ("generated_from", .string contract.typeName),
    ("functions", .string ("\n\n".intercalate functions)),
    ("classes", .string ("\n\n".intercalate classes))])

end ClientPackager.Client.Declarations
