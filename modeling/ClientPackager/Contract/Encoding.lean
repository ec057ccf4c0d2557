import ClientPackager.Contract
import ClientPackager.Descriptor.Encoding

set_option autoImplicit false

namespace ClientPackager.Contract

-- Only fields that may be null can be left out.
def propertyJson (property : Property) : Json := .object [
  ("name", .string property.name),
  ("js_type", .string property.type),
  ("description", .optional property.description)]

def typedefJson (typedef : Typedef) : Json := .object [
  ("name", .string typedef.name),
  ("properties", .array (typedef.properties.map propertyJson))]

def paramJson (param : Param) : Json := .object [
  ("name", .string param.name),
  ("type", param.type.toJson),
  ("required", .bool param.required),
  ("default_value", .optional param.defaultValue),
  ("typedef", (param.typedef.map typedefJson).getD .null)]

def methodJson (method : Method) : Json := .object [
  ("name", .string method.name),
  ("params", .array (method.params.map paramJson)),
  ("return_type", method.result.toJson),
  ("deprecated", .bool method.deprecated),
  ("description", .optional method.description),
  ("result_nullable", .bool method.resultNullable),
  ("mode", .string method.mode.label),
  ("single_result_channel", .bool method.singleResultChannel),
  ("payload", method.payload.toJson)]

def fieldJson (field : Field) : Json := .object [
  ("name", .string field.name),
  ("type", field.type.toJson)]

def recordJson (record : Record) : Json := .object [
  ("id", .string record.id.text),
  ("fields", .array (record.fields.map fieldJson))]

def tableJson (table : RecordTable) : Json := .object [
  ("records", .array (table.records.map recordJson))]

def toJson (contract : Contract) : Json := .object [
  ("route", .string contract.route.text),
  ("type_name", .string contract.typeName),
  ("npm_package", .optional (contract.npmPackage.map PackageName.text)),
  ("ordering", .string contract.order.label),
  ("methods", .array (contract.methods.map methodJson)),
  ("records", tableJson contract.records)]

def property? (value : Json) : Option Property := do
  let [name, type, description] ← value.fields .plain ["name", "js_type", "description"] 3 | none
  return {
    name := ← Json.required Json.string? name
    type := ← Json.required Json.string? type
    description := ← Json.nullable Json.string? description }

def typedef? (value : Json) : Option Typedef := do
  let [name, properties] ← value.fields .plain ["name", "properties"] 2 | none
  return {
    name := ← Json.required Json.string? name
    properties := ← Json.required (Json.list property?) properties }

def param? (value : Json) : Option Param := do
  let [name, type, needed, defaultValue, typedef] ←
    value.fields .plain ["name", "type", "required", "default_value", "typedef"] 5 | none
  return {
    name := ← Json.required Json.string? name
    type := ← Json.required Descriptor.ofJson? type
    required := ← Json.required Json.bool? needed
    defaultValue := ← Json.nullable Json.string? defaultValue
    typedef := ← Json.nullable typedef? typedef }

def mode? (value : Json) : Option Mode := (value.label .plain).bind Mode.ofLabel?

def order? (value : Json) : Option MethodOrder := (value.label .plain).bind MethodOrder.ofLabel?

def method? (value : Json) : Option Method := do
  let [name, params, result, deprecated, description, resultNullable, mode, singleResult, payload] ←
    value.fields .plain ["name", "params", "return_type", "deprecated", "description", "result_nullable",
      "mode", "single_result_channel", "payload"] 9 | none
  return {
    name := ← Json.required Json.string? name
    params := ← Json.required (Json.list param?) params
    result := ← Json.required Descriptor.ofJson? result
    deprecated := ← Json.required Json.bool? deprecated
    description := ← Json.nullable Json.string? description
    resultNullable := ← Json.required Json.bool? resultNullable
    mode := ← Json.required mode? mode
    singleResultChannel := ← Json.required Json.bool? singleResult
    payload := ← Json.required Descriptor.ofJson? payload }

def field? (value : Json) : Option Field := do
  let [name, type] ← value.fields .plain ["name", "type"] 2 | none
  return {
    name := ← Json.required Json.string? name
    type := ← Json.required Descriptor.ofJson? type }

def record? (value : Json) : Option Record := do
  let [id, fields] ← value.fields .plain ["id", "fields"] 2 | none
  return {
    id := ⟨← Json.required Json.string? id⟩
    fields := ← Json.required (Json.list field?) fields }

def table? (value : Json) : Option RecordTable := do
  let [records] ← value.fields .plain ["records"] 1 | none
  return ⟨← Json.required (Json.list record?) records⟩

def packageName? (value : Json) : Option PackageName :=
  value.string?.bind fun text => (PackageName.parse text).toOption

def ofJson? (value : Json) : Option Contract := do
  let [route, typeName, npmPackage, order, methods, records] ←
    value.fields .plain ["route", "type_name", "npm_package", "ordering", "methods", "records"] 6 | none
  return {
    route := ⟨← Json.required Json.string? route⟩
    typeName := ← Json.required Json.string? typeName
    npmPackage := ← Json.nullable packageName? npmPackage
    order := ← Json.required order? order
    methods := ← Json.required (Json.list method?) methods
    records := ← Json.required table? records }

end ClientPackager.Contract
