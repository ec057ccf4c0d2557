import ClientPackager.Contract
import ClientPackager.Json.Basic
import ClientPackager.Report.Style

set_option autoImplicit false

namespace ClientPackager

structure MethodReport where
  name : String
  route : String
  mode : Mode
  params : List String
  returns : String
  payload : String
  deprecated : Bool
deriving DecidableEq, Repr

structure Inspection where
  route : String
  implementation : String
  npmPackage : Option String
  methods : List MethodReport
  records : Nat
deriving DecidableEq, Repr

namespace Inspection

def paramText (param : Contract.Param) : String :=
  param.name ++ (if param.required then "" else "?") ++ ": " ++ param.type.display

def methodReport (contract : Contract) (method : Contract.Method) : MethodReport := {
  name := method.name
  route := contract.route.method method.name
  mode := method.mode
  params := method.params.map paramText
  returns := method.result.display
  payload := method.payload.display
  deprecated := method.deprecated }

def ofContract (contract : Contract) : Inspection := {
  route := contract.route.text
  implementation := contract.typeName
  npmPackage := contract.npmPackage.map PackageName.text
  methods := contract.methods.map (methodReport contract)
  records := contract.records.records.length }

def methodJson (method : MethodReport) : Json := .object [
  ("name", .string method.name),
  ("route", .string method.route),
  ("mode", .string method.mode.label),
  ("params", .array (method.params.map Json.string)),
  ("returns", .string method.returns),
  ("payload", .string method.payload),
  ("deprecated", .bool method.deprecated)]

def toJson (report : Inspection) : Json := .object [
  ("route", .string report.route),
  ("implementation", .string report.implementation),
  ("npm_package", .optional report.npmPackage),
  ("methods", .array (report.methods.map methodJson)),
  ("record_count", .nat report.records)]

def methodLine (styling : Bool) (method : MethodReport) : String :=
  let name := Style.apply styling [if method.deprecated then .struck else .bold] method.name
  Style.apply styling [.cyan] (padEnd 17 method.mode.label) ++ " " ++ name ++ "(" ++
    ", ".intercalate method.params ++ ") -> " ++ Style.apply styling [.green] method.returns

def methodLines (styling : Bool) (report : Inspection) : List String :=
  match report.methods with
  | [] => [Style.apply styling [.yellow] "No exported methods"]
  | methods => methods.map (methodLine styling)

def pretty (styling : Bool) (report : Inspection) : String :=
  let lines := [
    heading styling report.route,
    field styling "implements" report.implementation,
    field styling "package" (report.npmPackage.getD "-"),
    field styling "records" (toString report.records),
    ""]
  String.join ((lines ++ methodLines styling report).map (· ++ "\n"))

end Inspection
end ClientPackager
