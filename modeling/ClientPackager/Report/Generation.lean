import ClientPackager.Json.Basic
import ClientPackager.Report.Style

set_option autoImplicit false

namespace ClientPackager

structure Generation where
  package : String
  version : String
  files : List String
  bytes : Nat
  destination : String
  archive : Bool
deriving DecidableEq, Repr

namespace Generation

def toJson (report : Generation) : Json := .object [
  ("package", .string report.package),
  ("version", .string report.version),
  ("files", .array (report.files.map Json.string)),
  ("bytes", .nat report.bytes),
  ("destination", .string report.destination),
  ("archive", .bool report.archive)]

def pretty (styling : Bool) (report : Generation) : String :=
  "\n".intercalate (
    [done styling ("Generated " ++ report.package ++ " " ++ report.version)] ++
    report.files.map ("  " ++ ·) ++
    [field styling (if report.archive then "archive" else "directory") report.destination,
      field styling "size" (toString report.bytes ++ " bytes")])

end Generation
end ClientPackager
