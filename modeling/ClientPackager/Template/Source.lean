import ClientPackager.Template.Library

set_option autoImplicit false

namespace ClientPackager.Template

inductive Piece where
  | text (text : String)
  | value (name : String)
  | json (name : String)
  | opening (helper name : String)
  | closing (helper : String)
deriving DecidableEq, Repr

namespace Piece

def words : Piece → String
  | .text written => written
  | .value name => name
  | .json name => "json " ++ name
  | .opening helper name => "#" ++ helper ++ " " ++ name
  | .closing helper => "/" ++ helper

def source : Piece → String
  | .text written => written
  | piece => "\x7b\x7b" ++ piece.words ++ "\x7d\x7d"

end Piece

def sourceOf (pieces : List Piece) : String := String.join (pieces.map Piece.source)

open Piece

def scriptModuleSource : List Piece := [
  text "// Generated from ", value "generated_from",
  text scriptPrelude, value "class_name",
  text scriptConstructor, json "route",
  text scriptPrimitives, value "class_type",
  text scriptReceiver, opening "if" "methods",
  text "\n\n", value "methods",
  text "\n", closing "if",
  text ("\n" ++ scriptExport), value "class_name",
  text typedefHeading, opening "if" "typedefs",
  text "\n", value "typedefs",
  text "\n", closing "if",
  text "\n"]

def scriptMethodSource : List Piece := [
  text "    /**\n", opening "each" "doc",
  text "\n     * ", value "this",
  text "\n", closing "each",
  text "\n     */\n    ", value "name",
  text "(", value "params",
  text ") \x7b\n        return this.", value "primitive",
  text "(", json "name", value "args",
  text ");\n    \x7d\n"]

def scriptTypedefSource : List Piece := [
  text "/**\n * @typedef \x7bObject\x7d ", value "name",
  text "\n", opening "each" "properties",
  text "\n * @property ", value "type",
  text " ", value "name", opening "if" "description",
  text " ", value "description", closing "if",
  text "\n", closing "each",
  text "\n */\n"]

def declarationModuleSource : List Piece := [
  text "// Generated from ", value "generated_from",
  text declarationPrelude, opening "if" "functions",
  text "\n\n", value "functions",
  text "\n", closing "if",
  text ("\n" ++ classHeading), opening "if" "classes",
  text "\n", value "classes",
  text "\n", closing "if",
  text "\n"]

def declarationFunctionSource : List Piece := [
  opening "if" "doc",
  text "\n/**\n", opening "each" "doc",
  text "\n * ", value "this",
  text "\n", closing "each",
  text "\n */\n", closing "if",
  text "\n", opening "if" "alias",
  text "\ndeclare function ", value "alias",
  text "(", value "params",
  text "): ", value "returns",
  text ";\nexport \x7b ", value "alias",
  text " as ", value "name",
  text " \x7d;\n", closing "if",
  text "\n", opening "unless" "alias",
  text "\nexport function ", value "name",
  text "(", value "params",
  text "): ", value "returns",
  text ";\n", closing "unless",
  text "\n"]

def declarationClassSource : List Piece := [
  text "declare class ", value "name",
  text " \x7b\n", opening "each" "properties",
  text "\n    ", value "name",
  text ": ", value "type",
  text ";\n", closing "each",
  text "\n\x7d\n"]

def sources : List (String × List Piece) := [
  ("rsocket/index.js", scriptModuleSource),
  ("rsocket/method.js", scriptMethodSource),
  ("rsocket/typedef.js", scriptTypedefSource),
  ("rsocket/index.d.ts", declarationModuleSource),
  ("rsocket/function.d.ts", declarationFunctionSource),
  ("rsocket/class.d.ts", declarationClassSource)]

def Library.ofSources (sources : List (String × List Piece)) : Outcome Library :=
  sources.foldlM (fun library (name, pieces) => library.register name (sourceOf pieces)) ⟨[]⟩

end ClientPackager.Template
