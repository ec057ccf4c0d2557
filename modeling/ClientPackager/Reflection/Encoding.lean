import ClientPackager.Disk.Store
import ClientPackager.Fault
import ClientPackager.Json.Decode
import ClientPackager.Json.Reader
import ClientPackager.Reflection
import ClientPackager.Toml.Reader

set_option autoImplicit false

namespace ClientPackager.Reflection

-- What a document leaves out has a default: a method returns nothing, a parameter is
-- required, flags are off and lists are empty.
def property? (manner : Json.Manner) (value : Json) : Option Property := do
  let [name, type, description] ← value.fields manner ["name", "type", "description"] 2 | none
  return {
    name := ← Json.required Json.string? name
    type := ← Json.required Json.string? type
    description := ← Json.nullable Json.string? description }

def typedef? (manner : Json.Manner) (value : Json) : Option Typedef := do
  let [name, properties] ← value.fields manner ["name", "properties"] 1 | none
  return {
    name := ← Json.required Json.string? name
    properties := ← Json.orElse [] (Json.list (property? manner)) properties }

def param? (manner : Json.Manner) (value : Json) : Option Param := do
  let [name, type, needed, defaultValue, typedef] ←
    value.fields manner ["name", "type", "required", "default_value", "typedef"] 2 | none
  return {
    name := ← Json.required Json.string? name
    type := ← Json.required Json.string? type
    required := ← Json.orElse true Json.bool? needed
    defaultValue := ← Json.nullable Json.string? defaultValue
    typedef := ← Json.nullable (typedef? manner) typedef }

def marker? (manner : Json.Manner) (value : Json) : Option Marker :=
  (value.label manner).bind Marker.ofLabel?

def method? (manner : Json.Manner) (value : Json) : Option Method := do
  let [name, route, deprecated, description, resultNullable, params, returns] ←
    value.fields manner ["name", "route", "deprecated", "description", "result_nullable", "params",
      "returns"] 1 | none
  return {
    name := ← Json.required Json.string? name
    route := ← Json.nullable (marker? manner) route
    deprecated := ← Json.orElse false Json.bool? deprecated
    description := ← Json.nullable Json.string? description
    resultNullable := ← Json.orElse false Json.bool? resultNullable
    params := ← Json.orElse [] (Json.list (param? manner)) params
    returns := ← Json.orElse "void" Json.string? returns }

def field? (manner : Json.Manner) (value : Json) : Option Field := do
  let [name, type] ← value.fields manner ["name", "type"] 2 | none
  return { name := ← Json.required Json.string? name, type := ← Json.required Json.string? type }

def record? (manner : Json.Manner) (value : Json) : Option Record := do
  let [name, fields] ← value.fields manner ["name", "fields"] 1 | none
  return {
    name := ← Json.required Json.string? name
    fields := ← Json.orElse [] (Json.list (field? manner)) fields }

def ofValue? (manner : Json.Manner) (value : Json) : Option Reflection := do
  let [typeName, route, npmPackage, methods, records] ←
    value.fields manner ["type_name", "route", "npm_package", "methods", "records"] 1 | none
  return {
    typeName := ← Json.required Json.string? typeName
    route := ← Json.nullable Json.string? route
    npmPackage := ← Json.nullable Json.string? npmPackage
    methods := ← Json.orElse [] (Json.list (method? manner)) methods
    records := ← Json.orElse [] (Json.list (record? manner)) records }

def unreadable : Fault := .serialization "invalid reflection document"

def ofJsonText (text : String) : Outcome Reflection :=
  (((Json.parse text).bind (ofValue? .plain)).map .ok).getD (.error unreadable)

def ofTomlText (text : String) : Outcome Reflection :=
  (((Toml.parse text).bind (ofValue? Toml.manner)).map .ok).getD (.error unreadable)

def propertyJson (property : Property) : Json := .object [
  ("name", .string property.name),
  ("type", .string property.type),
  ("description", .optional property.description)]

def typedefJson (typedef : Typedef) : Json := .object [
  ("name", .string typedef.name),
  ("properties", .array (typedef.properties.map propertyJson))]

def paramJson (param : Param) : Json := .object [
  ("name", .string param.name),
  ("type", .string param.type),
  ("required", .bool param.required),
  ("default_value", .optional param.defaultValue),
  ("typedef", (param.typedef.map typedefJson).getD .null)]

def methodJson (method : Method) : Json := .object [
  ("name", .string method.name),
  ("route", .optional (method.route.map Marker.label)),
  ("deprecated", .bool method.deprecated),
  ("description", .optional method.description),
  ("result_nullable", .bool method.resultNullable),
  ("params", .array (method.params.map paramJson)),
  ("returns", .string method.returns)]

def fieldJson (field : Field) : Json := .object [
  ("name", .string field.name),
  ("type", .string field.type)]

def recordJson (record : Record) : Json := .object [
  ("name", .string record.name),
  ("fields", .array (record.fields.map fieldJson))]

def toJson (doc : Reflection) : Json := .object [
  ("type_name", .string doc.typeName),
  ("route", .optional doc.route),
  ("npm_package", .optional doc.npmPackage),
  ("methods", .array (doc.methods.map methodJson)),
  ("records", .array (doc.records.map recordJson))]

def isDocument (path : String) : Bool :=
  DiskPath.hasExtension "json" path || DiskPath.hasExtension "toml" path

-- A name with neither extension stands for JSON.
def ofFileText (path text : String) : Outcome Reflection :=
  if DiskPath.hasExtension "toml" path then ofTomlText text else ofJsonText text

def load {m : Type → Type} [Monad m] [FileStore m] (path : String) : m (Outcome Reflection) := do
  match ← FileStore.readText path with
  | .ok text => return ofFileText path text
  | .error _ => return .error (.io path)

end ClientPackager.Reflection
