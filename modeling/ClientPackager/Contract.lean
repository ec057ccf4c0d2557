import ClientPackager.Descriptor
import ClientPackager.Mode
import ClientPackager.PackageName
import ClientPackager.TypeExpr.Basic

set_option autoImplicit false

namespace ClientPackager

structure Route where
  text : String
deriving DecidableEq, Repr

namespace Route

def shortName (route : Route) : String := Text.afterLast '.' route.text

def method (route : Route) (name : String) : String := route.text ++ "." ++ name

end Route

inductive MethodOrder where
  | declaration
  | alphabetical
deriving DecidableEq, Repr

namespace MethodOrder

def all : List MethodOrder := [declaration, alphabetical]

def label : MethodOrder → String
  | declaration => "declaration"
  | alphabetical => "alphabetical"

def ofLabel? (text : String) : Option MethodOrder := all.find? fun order => order.label == text

theorem ofLabel?_label (order : MethodOrder) : ofLabel? order.label = some order := by
  cases order <;> decide

end MethodOrder

namespace Contract

structure Param where
  name : String
  type : Descriptor
  required : Bool
  defaultValue : Option String
  typedef : Option Typedef
deriving DecidableEq, Repr

structure Method where
  name : String
  params : List Param
  result : Descriptor
  deprecated : Bool
  description : Option String
  resultNullable : Bool
  mode : Mode
  singleResultChannel : Bool
  payload : Descriptor
deriving DecidableEq, Repr

def Method.channelParam? (method : Method) : Option Param :=
  if method.mode = .requestChannel then method.params.getLast? else none

structure Field where
  name : String
  type : Descriptor
deriving DecidableEq, Repr

structure Record where
  id : RecordId
  fields : List Field
deriving DecidableEq, Repr

structure RecordTable where
  records : List Record
deriving DecidableEq, Repr

namespace RecordTable

def get? (table : RecordTable) (id : RecordId) : Option Record :=
  table.records.find? (·.id == id)

def fieldsOf (table : RecordTable) (id : RecordId) : List Field :=
  ((table.get? id).map Record.fields).getD []

end RecordTable
end Contract

structure Contract where
  route : Route
  typeName : String
  npmPackage : Option PackageName
  order : MethodOrder
  methods : List Contract.Method
  records : Contract.RecordTable
deriving DecidableEq, Repr

namespace Contract

def shortName (contract : Contract) : String := contract.route.shortName

def withoutImpl (name : String) : String :=
  if Text.hasTrailing "Impl" name && 4 < name.length then
    String.ofList (name.toList.take (name.length - 4))
  else name

def className (contract : Contract) : String :=
  withoutImpl (TypeExpr.simpleNameOf contract.typeName)

def isEmpty (contract : Contract) : Bool := contract.methods.isEmpty

end Contract
end ClientPackager
