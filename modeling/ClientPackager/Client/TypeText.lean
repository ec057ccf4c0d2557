import ClientPackager.Client.Registry

set_option autoImplicit false

namespace ClientPackager.Client.Registry

def runtimeTextBy (name : RecordId → String) : Descriptor → String
  | .number _ => "number"
  | .boolean => "boolean"
  | .text => "string"
  | .void => "undefined"
  | .dateTime => "Date"
  | .binary => "Buffer"
  | .list _ => "Array"
  | .single value => runtimeTextBy name value
  | .stream _ => "Array|Observable|Flowable"
  | .record id => name id

-- Parentheses around a union, so that brackets behind it apply to the whole.
def groupUnion (type : String) : String :=
  if '|' ∈ type.toList then "(" ++ type ++ ")" else type

def staticTextBy (name : RecordId → String) : Descriptor → String
  | .number _ => "number"
  | .boolean => "boolean"
  | .text => "string"
  | .void => "void"
  | .dateTime => "Date"
  | .binary => "Buffer"
  | .list element => groupUnion (staticTextBy name element) ++ "[]"
  | .single value => staticTextBy name value
  | .stream element =>
    let text := staticTextBy name element
    groupUnion text ++ "[] | Observable<" ++ text ++ "> | Flowable<" ++ text ++ ">"
  | .record id => name id

def nameOr (unknown : String) (registry : Registry) (id : RecordId) : String :=
  (registry.nameOf? id).getD unknown

def runtimeText (registry : Registry) (type : Descriptor) : String :=
  runtimeTextBy (registry.nameOr "Object") type

def staticText (registry : Registry) (type : Descriptor) : String :=
  staticTextBy (registry.nameOr "any") type

end ClientPackager.Client.Registry
