import ClientPackager.Json.Printer
import ClientPackager.Package.Dependencies
import ClientPackager.PackageName
import ClientPackager.Version

set_option autoImplicit false

namespace ClientPackager

def moduleFile : String := "index.js"

def declarationFile : String := "index.d.ts"

def manifestFile : String := "package.json"

structure PackageSpec where
  name : PackageName
  version : Version
  description : String
  declarations : Bool
deriving DecidableEq, Repr

namespace PackageSpec

def ofName (name : PackageName) (version : Version) : PackageSpec :=
  ⟨name, version, "npm package to call RSocket " ++ name.shortName, true⟩

end PackageSpec

structure Manifest where
  name : String
  version : String
  main : String
  types : Option String
  description : String
  dependencies : Dependencies
deriving DecidableEq, Repr

namespace Manifest

def clientDependencies : Dependencies := .ofList [
  ("fbjs", "^1.0.0"),
  ("rsocket-core", "0.0.19"),
  ("rsocket-flowable", "^0.0.14"),
  ("rsocket-types", "^0.0.16"),
  ("rsocket-websocket-client", "0.0.19"),
  ("rxjs", "^6.5.4")]

def ofSpec (spec : PackageSpec) : Manifest := {
  name := spec.name.text
  version := spec.version.text
  main := moduleFile
  types := if spec.declarations then some declarationFile else none
  description := spec.description
  dependencies := clientDependencies }

def typesMember : Option String → List (String × Json)
  | some file => [("types", .string file)]
  | none => []

def toJson (manifest : Manifest) : Json := .object (
  [("name", .string manifest.name), ("version", .string manifest.version),
    ("main", .string manifest.main)] ++
  typesMember manifest.types ++
  [("description", .string manifest.description), ("dependencies", manifest.dependencies.toJson)])

def text (manifest : Manifest) : String := manifest.toJson.indented ++ "\n"

def ofJson? (value : Json) : Option Manifest := do
  let [name, version, main, types, description, dependencies] ←
    value.fields .plain ["name", "version", "main", "types", "description", "dependencies"] 6 | none
  return {
    name := ← Json.required Json.string? name
    version := ← Json.required Json.string? version
    main := ← Json.required Json.string? main
    types := ← Json.nullable Json.string? types
    description := ← Json.required Json.string? description
    dependencies := ← Json.required Dependencies.ofJson? dependencies }

end Manifest
end ClientPackager
