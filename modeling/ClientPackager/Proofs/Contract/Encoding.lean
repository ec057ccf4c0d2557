import ClientPackager.Contract.Encoding
import ClientPackager.Proofs.Json.Fields
import ClientPackager.Proofs.Package.Name
import ClientPackager.Reflection.Encoding

set_option autoImplicit false

namespace ClientPackager

open Json (Worded fields_in_order list_restored nullable_restored optional_restored worded_optional worded_list
  worded_object)

theorem Descriptor.descriptor_restored (type : Descriptor) : ofJson? type.toJson = some type := by
  induction type with
  | number kind =>
      simp [toJson, kindOfJson, ofJson?, contentOf, Json.distinct, Json.label, build, NumberKind.ofLabel?_label]
  | boolean | text | void | dateTime | binary =>
      simp [toJson, kindJson, ofJson?, contentOf, Json.distinct, Json.label, build, plain]
  | list inner ih | single inner ih | stream inner ih =>
      simp [toJson, kindOfJson, ofJson?, contentOf, Json.distinct, Json.label, build, ih]
  | record id => simp [toJson, kindOfJson, ofJson?, contentOf, Json.distinct, Json.label, build, Json.string?]

namespace Contract

theorem property_restored (property : Property) : property? (propertyJson property) = some property := by
  simp [property?, propertyJson, fields_in_order, Json.required, Json.string?, optional_restored]

theorem typedef_restored (typedef : Typedef) : typedef? (typedefJson typedef) = some typedef := by
  have properties := list_restored property? propertyJson property_restored typedef.properties
  simp [typedef?, typedefJson, fields_in_order, Json.required, Json.string?, properties]

theorem param_restored (param : Param) : param? (paramJson param) = some param := by
  have typedef := nullable_restored typedef? typedefJson typedef_restored (by simp [typedefJson]) param.typedef
  simp [param?, paramJson, fields_in_order, Json.required, Json.string?, Json.bool?, optional_restored,
    Descriptor.descriptor_restored, typedef]

theorem method_restored (method : Method) : method? (methodJson method) = some method := by
  have params := list_restored param? paramJson param_restored method.params
  have mode : mode? (.string method.mode.label) = some method.mode := Mode.ofLabel?_label method.mode
  simp [method?, methodJson, fields_in_order, Json.required, Json.string?, Json.bool?, optional_restored,
    Descriptor.descriptor_restored, params, mode]

theorem field_restored (field : Field) : field? (fieldJson field) = some field := by
  simp [field?, fieldJson, fields_in_order, Json.required, Json.string?, Descriptor.descriptor_restored]

theorem record_restored (record : Record) : record? (recordJson record) = some record := by
  have fields := list_restored field? fieldJson field_restored record.fields
  simp [record?, recordJson, fields_in_order, Json.required, Json.string?, fields]

theorem table_restored (table : RecordTable) : table? (tableJson table) = some table := by
  have records := list_restored record? recordJson record_restored table.records
  simp [table?, tableJson, fields_in_order, Json.required, records]

-- A stored name is checked once more when it is read, and passes.
theorem package_name_restored (name : Option PackageName) :
    Json.nullable packageName? (some (.optional (name.map PackageName.text))) = some name := by
  cases name with
  | none => rfl
  | some name =>
      have parsed : packageName? (.string name.text) = some name := by
        simp [packageName?, Json.string?, PackageName.parse_own_text, Except.toOption]
      simp [Json.optional, Json.nullable, parsed]

theorem contract_restored (contract : Contract) : ofJson? contract.toJson = some contract := by
  have methods := list_restored method? methodJson method_restored contract.methods
  have order : order? (.string contract.order.label) = some contract.order := MethodOrder.ofLabel?_label contract.order
  simp [ofJson?, toJson, fields_in_order, Json.required, Json.string?, package_name_restored, order, methods,
    table_restored]

end Contract

namespace Reflection

variable (manner : Json.Manner)

theorem property_restored (property : Property) : property? manner (propertyJson property) = some property := by
  simp [property?, propertyJson, fields_in_order, Json.required, Json.string?, optional_restored]

theorem typedef_restored (typedef : Typedef) : typedef? manner (typedefJson typedef) = some typedef := by
  have properties := list_restored (property? manner) propertyJson (property_restored manner) typedef.properties
  simp [typedef?, typedefJson, fields_in_order, Json.required, Json.orElse, Json.string?, properties]

theorem param_restored (param : Param) : param? manner (paramJson param) = some param := by
  have typedef := nullable_restored (typedef? manner) typedefJson (typedef_restored manner) (by simp [typedefJson])
    param.typedef
  simp [param?, paramJson, fields_in_order, Json.required, Json.orElse, Json.string?, Json.bool?, optional_restored,
    typedef]

theorem marker_restored (marker : Option Marker) :
    Json.nullable (marker? manner) (some (.optional (marker.map Marker.label))) = some marker := by
  cases marker with
  | none => rfl
  | some marker =>
      have read : marker? manner (.string marker.label) = some marker := Marker.ofLabel?_label marker
      simp [Json.optional, Json.nullable, read]

theorem method_restored (method : Method) : method? manner (methodJson method) = some method := by
  have params := list_restored (param? manner) paramJson (param_restored manner) method.params
  simp [method?, methodJson, fields_in_order, Json.required, Json.orElse, Json.string?, Json.bool?, optional_restored,
    marker_restored, params]

theorem field_restored (field : Field) : field? manner (fieldJson field) = some field := by
  simp [field?, fieldJson, fields_in_order, Json.required, Json.string?]

theorem record_restored (record : Record) : record? manner (recordJson record) = some record := by
  have fields := list_restored (field? manner) fieldJson (field_restored manner) record.fields
  simp [record?, recordJson, fields_in_order, Json.required, Json.orElse, Json.string?, fields]

theorem document_restored (doc : Reflection) : ofValue? manner doc.toJson = some doc := by
  have methods := list_restored (method? manner) methodJson (method_restored manner) doc.methods
  have records := list_restored (record? manner) recordJson (record_restored manner) doc.records
  simp [ofValue?, toJson, fields_in_order, Json.required, Json.orElse, Json.string?, optional_restored, methods,
    records]

theorem property_worded (property : Property) : Worded (propertyJson property) := by
  simp [propertyJson, worded_object, Worded.string, worded_optional]

theorem typedef_worded (typedef : Typedef) : Worded (typedefJson typedef) := by
  simp [typedefJson, worded_object, Worded.string, worded_list, property_worded]

theorem param_worded (param : Param) : Worded (paramJson param) := by
  have typedef : Worded ((param.typedef.map typedefJson).getD .null) := by
    cases param.typedef with
    | none => exact .null
    | some typedef => exact typedef_worded typedef
  simp [paramJson, worded_object, Worded.string, Worded.bool, worded_optional, typedef]

theorem method_worded (method : Method) : Worded (methodJson method) := by
  simp [methodJson, worded_object, Worded.string, Worded.bool, worded_optional, worded_list, param_worded]

theorem field_worded (field : Field) : Worded (fieldJson field) := by
  simp [fieldJson, worded_object, Worded.string]

theorem record_worded (record : Record) : Worded (recordJson record) := by
  simp [recordJson, worded_object, Worded.string, worded_list, field_worded]

theorem document_worded (doc : Reflection) : Worded doc.toJson := by
  simp [toJson, worded_object, Worded.string, worded_optional, worded_list, method_worded, record_worded]

theorem text_decoded (text : String) (value : Json) (doc : Reflection) (read : Json.parse text = some value)
    (means : ofValue? .plain value = some doc) : ofJsonText text = .ok doc := by
  rw [ofJsonText, read, Option.bind_some, means]
  rfl

-- A document by position, with methods that have a route and nothing else.
def brief (typeName route : String) (package : Option String) (methods : List (String × Marker)) : Json := .array [
  .string typeName,
  .string route,
  .optional package,
  .array (methods.map fun method => .array [.string method.1, .string method.2.label])]

theorem brief_worded (typeName route : String) (package : Option String) (methods : List (String × Marker)) :
    Worded (brief typeName route package methods) := by
  have each : Worded (.array (methods.map fun method => .array [.string method.1, .string method.2.label])) :=
    worded_list _ methods fun _ => .array _ (by simp [Worded.string])
  exact .array _ (by simp [Worded.string, worded_optional, each])

theorem brief_decoded (typeName route : String) (package : Option String) (methods : List (String × Marker))
    (doc : Reflection) (means : ofValue? .plain (brief typeName route package methods) = some doc) :
    ofJsonText (brief typeName route package methods).compact = .ok doc :=
  text_decoded _ _ doc (Json.parse_printed _ (brief_worded typeName route package methods)).1 means

theorem lower_json : "json".map Char.toLower = "json" := by
  rw [← String.toList_inj, String.toList_map]
  rfl

theorem json_is_document {path : String} (named : DiskPath.extension? path = some "json") : isDocument path = true := by
  rw [isDocument, DiskPath.hasExtension, named, Option.any_some, lower_json, beq_self_eq_true, Bool.true_or]

theorem of_json_file {path : String} (text : String) (named : DiskPath.extension? path = some "json") :
    ofFileText path text = ofJsonText text := by
  rw [ofFileText, DiskPath.hasExtension, named, Option.any_some, lower_json]
  exact if_neg Bool.false_ne_true

end Reflection

theorem encodings_undone :
    (∀ contract : Contract, Contract.ofJson? contract.toJson = some contract) ∧
      ∀ doc : Reflection, Reflection.ofJsonText doc.toJson.compact = .ok doc ∧
        Reflection.ofJsonText doc.toJson.indented = .ok doc := by
  refine ⟨Contract.contract_restored, fun doc => ?_⟩
  obtain ⟨compact, indented⟩ := Json.parse_printed doc.toJson (Reflection.document_worded doc)
  have restored := Reflection.document_restored .plain doc
  exact ⟨Reflection.text_decoded _ _ doc compact restored, Reflection.text_decoded _ _ doc indented restored⟩

end ClientPackager
