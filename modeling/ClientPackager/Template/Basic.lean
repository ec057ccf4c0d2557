import ClientPackager.Json.Basic

set_option autoImplicit false

namespace ClientPackager

abbrev FieldPath := List String

namespace Template

inductive Operand where
  | literal (value : Json)
  | field (path : FieldPath)
deriving Repr, Inhabited

inductive Node where
  | text (text : String)
  | value (path : FieldPath)
  | call (helper : String) (args : List Operand)
  | block (helper : String) (args : List Operand) (body : List Node) (otherwise : Option (List Node))
deriving Repr, Inhabited

-- A tag with such a name and nothing else is no field.
def helpers : List String := [
  "if", "unless", "each", "with", "raw", "log", "lookup", "json", "len", "not", "and", "or",
  "eq", "ne", "gt", "gte", "lt", "lte"]

def lines (all : List String) : String := String.join (all.map (· ++ "\n"))

end Template

abbrev Template := List Template.Node

end ClientPackager
