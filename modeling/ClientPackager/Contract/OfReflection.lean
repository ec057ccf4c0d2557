import ClientPackager.Contract
import ClientPackager.Mode
import ClientPackager.Reflection
import ClientPackager.Text.Basic
import ClientPackager.TypeExpr.Resolve

set_option autoImplicit false

namespace ClientPackager.Contract

def routeOf (doc : Reflection) : Outcome Route :=
  match doc.route.map Text.trim with
  | none | some "" => .error (.invalidContract doc.typeName "missing class-level route")
  | some route => .ok ⟨route⟩

def packageOf (doc : Reflection) : Outcome (Option PackageName) :=
  match doc.npmPackage with
  | none => .ok none
  | some text =>
    match PackageName.parse text with
    | .ok name => .ok (some name)
    | .error defect => .error (.invalidContract doc.typeName defect.fault.message)

def resolverOf (doc : Reflection) : Resolver := ⟨doc.records.map fun record => ⟨record.name⟩⟩

def firstOfEachName : List Reflection.Record → List Reflection.Record
  | [] => []
  | record :: rest => record :: (firstOfEachName rest).filter (·.name ≠ record.name)

def ofField (resolver : Resolver) (field : Reflection.Field) : Outcome Field := do
  return ⟨field.name, ← resolver.resolveText field.type⟩

def ofRecord (resolver : Resolver) (record : Reflection.Record) : Outcome Record := do
  return ⟨⟨record.name⟩, ← record.fields.mapM (ofField resolver)⟩

def recordsOf (doc : Reflection) : Outcome RecordTable := do
  return ⟨← (firstOfEachName doc.records).mapM (ofRecord (resolverOf doc))⟩

def ofParam (resolver : Resolver) (param : Reflection.Param) : Outcome Param := do
  return {
    name := param.name
    type := ← resolver.resolveText param.type
    required := param.required
    defaultValue := param.defaultValue
    typedef := param.typedef }

def ofMethod (resolver : Resolver) (method : Reflection.Method) : Outcome Method := do
  let params ← method.params.mapM (ofParam resolver)
  let result ← resolver.resolveText method.returns
  let classification := Classification.ofTypes (params.map Param.type) result
  return {
    name := method.name
    params := params
    result := result
    deprecated := method.deprecated
    description := method.description.filter fun text => !Text.blank text
    resultNullable := method.resultNullable
    mode := classification.mode
    singleResultChannel := classification.singleResultChannel
    payload := result.payload }

def methodsOf (doc : Reflection) : Outcome (List Method) :=
  (doc.methods.filter (·.route.isSome)).mapM (ofMethod (resolverOf doc))

-- Alphabetical order is by name; methods of one name keep the order of their
-- declaration.
def arrange (order : MethodOrder) (methods : List Method) : List Method :=
  match order with
  | .declaration => methods
  | .alphabetical => methods.mergeSort fun a b => a.name ≤ b.name

-- The class-level route is checked first, then the package name, then the fields of the
-- records, then the methods with their parameters before their results; the first fault
-- is the outcome.
def ofReflection (order : MethodOrder) (doc : Reflection) : Outcome Contract := do
  let route ← routeOf doc
  let npmPackage ← packageOf doc
  let records ← recordsOf doc
  let methods ← methodsOf doc
  return {
    route := route
    typeName := doc.typeName
    npmPackage := npmPackage
    order := order
    methods := arrange order methods
    records := records }

end ClientPackager.Contract
