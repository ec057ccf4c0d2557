import ClientPackager.Descriptor
import ClientPackager.TypeExpr.Basic

set_option autoImplicit false

namespace ClientPackager

namespace Reflection

inductive Marker where
  | direct
  | inherited
deriving DecidableEq, Repr

namespace Marker

def all : List Marker := [direct, inherited]

def label : Marker → String
  | direct => "direct"
  | inherited => "inherited"

def ofLabel? (text : String) : Option Marker := all.find? fun marker => marker.label == text

theorem ofLabel?_label (marker : Marker) : ofLabel? marker.label = some marker := by
  cases marker <;> decide

end Marker

structure Param where
  name : String
  type : String
  required : Bool
  defaultValue : Option String
  typedef : Option Typedef
deriving DecidableEq, Repr

structure Method where
  name : String
  -- A method without a marker is not exported.
  route : Option Marker
  deprecated : Bool
  description : Option String
  resultNullable : Bool
  params : List Param
  returns : String
deriving DecidableEq, Repr

structure Field where
  name : String
  type : String
deriving DecidableEq, Repr

structure Record where
  name : String
  fields : List Field
deriving DecidableEq, Repr

end Reflection

structure Reflection where
  typeName : String
  route : Option String
  npmPackage : Option String
  methods : List Reflection.Method
  records : List Reflection.Record
deriving DecidableEq, Repr

def Reflection.simpleTypeName (doc : Reflection) : String := TypeExpr.simpleNameOf doc.typeName

end ClientPackager
