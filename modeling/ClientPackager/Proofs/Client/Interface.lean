import ClientPackager.Client.Script
import ClientPackager.Client.TypeText

set_option autoImplicit false

namespace ClientPackager.Client

open Contract (Method Param)

-- What a client offers, apart from the words of the file that says it: a type
-- is the name of a typedef, text that a typedef brings along, or a descriptor
-- that each file spells in its own way.
inductive TypeUse where
  | typedef (name : String)
  | verbatim (text : String)
  | mapped (type : Descriptor)
deriving DecidableEq, Repr

structure Argument where
  identifier : String
  type : TypeUse
  optional : Bool
  fallback : Option String
deriving DecidableEq, Repr

inductive Wrapper where
  | promise
  | observable
deriving DecidableEq, Repr

def Wrapper.text : Wrapper → String
  | .promise => "Promise"
  | .observable => "Observable"

inductive Answer where
  | nothing
  | delivery (wrapper : Wrapper) (type : Descriptor) (nullable : Bool)
deriving DecidableEq, Repr

structure Operation where
  name : String
  mode : Mode
  doc : List String
  arguments : List Argument
  answer : Answer
deriving DecidableEq, Repr

structure Member where
  name : String
  type : TypeUse
  description : String
deriving DecidableEq, Repr

structure Shape where
  name : String
  members : List Member
deriving DecidableEq, Repr

structure Interface where
  operations : List Operation
  shapes : List Shape
deriving DecidableEq, Repr

def Argument.ofParam (param : Param) : Argument where
  identifier := Client.identifier param.name
  type := match param.typedef with
    | some typedef => .typedef typedef.name
    | none => .mapped param.type
  optional := !param.required
  fallback := param.defaultValue

def Answer.ofMethod (method : Method) : Answer :=
  match method.mode with
  | .fireAndForget => .nothing
  | .requestResponse => .delivery .promise method.result method.resultNullable
  | .requestStream | .requestChannel => .delivery .observable method.result.delivered method.resultNullable

def Operation.ofMethod (method : Method) : Operation where
  name := method.name
  mode := method.mode
  doc := docLines method
  arguments := method.params.map Argument.ofParam
  answer := Answer.ofMethod method

def Shape.ofDefinition (definition : Definition) : Shape where
  name := definition.name
  members := definition.properties.map fun field => ⟨field.name, .mapped field.type, ""⟩

def Shape.ofTypedef (typedef : Typedef) : Shape where
  name := typedef.name
  members := typedef.properties.map fun property =>
    ⟨property.name, .verbatim property.type, property.description.getD ""⟩

def Interface.ofContract (contract : Contract) : Interface where
  operations := contract.methods.map Operation.ofMethod
  shapes := (Registry.ofContract contract).definitions.map Shape.ofDefinition ++
    (Registry.ofContract contract).typedefs.map Shape.ofTypedef

def Registry.shapes (registry : Registry) : List Shape :=
  registry.definitions.map Shape.ofDefinition ++ registry.typedefs.map Shape.ofTypedef

-- The interface of a contract whose types stand in some registry, filled or not.
def Interface.under (registry : Registry) (contract : Contract) : Interface where
  operations := contract.methods.map Operation.ofMethod
  shapes := registry.shapes

theorem interface_of_contract (contract : Contract) :
    Interface.ofContract contract = Interface.under (Registry.ofContract contract) contract := rfl

def Answer.types : Answer → List TypeUse
  | .nothing => []
  | .delivery _ type _ => [.mapped type]

def Operation.types (operation : Operation) : List TypeUse :=
  operation.arguments.map Argument.type ++ operation.answer.types

def Interface.types (interface : Interface) : List TypeUse :=
  interface.operations.flatMap Operation.types ++
    interface.shapes.flatMap fun shape => shape.members.map Member.type

end ClientPackager.Client
