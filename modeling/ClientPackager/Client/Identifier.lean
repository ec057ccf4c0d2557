import ClientPackager.Text.Alphanumeric

set_option autoImplicit false

namespace ClientPackager.Client

-- Words that name nothing in strict mode or in a declaration.
def reservedWords : List String := [
  "arguments", "await", "break", "case", "catch", "class", "const", "continue", "debugger",
  "default", "delete", "do", "else", "enum", "eval", "export", "extends", "false", "finally", "for",
  "function", "if", "implements", "import", "in", "instanceof", "interface", "let", "new", "null",
  "package", "private", "protected", "public", "return", "static", "super", "switch", "this",
  "throw", "true", "try", "typeof", "var", "void", "while", "with", "yield"]

def isReserved (name : String) : Bool := reservedWords.contains name

def isIdentifierChar (c : Char) : Bool := Text.isAlphanumeric c || c == '_' || c == '$'

def replaceForeign (cs : List Char) : List Char :=
  cs.map fun c => if isIdentifierChar c then c else '_'

def protectStart : List Char → List Char
  | [] => ['_']
  | c :: rest => if c.isDigit then '_' :: c :: rest else c :: rest

def identifier (name : String) : String :=
  let word := String.ofList (protectStart (replaceForeign name.toList))
  if isReserved word then word ++ "_" else word

end ClientPackager.Client
