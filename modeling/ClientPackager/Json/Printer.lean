import ClientPackager.Json.Basic

set_option autoImplicit false

namespace ClientPackager.Json

def hexDigit (n : Nat) : Char := if n < 10 then Char.ofNat (48 + n) else Char.ofNat (87 + n)

def escape (c : Char) : List Char :=
  if c = '"' then ['\\', '"']
  else if c = '\\' then ['\\', '\\']
  else if c = '\n' then ['\\', 'n']
  else if c = '\r' then ['\\', 'r']
  else if c = '\t' then ['\\', 't']
  else if c.toNat = 0x08 then ['\\', 'b']
  else if c.toNat = 0x0c then ['\\', 'f']
  else if c.toNat < 0x20 then ['\\', 'u', '0', '0', hexDigit (c.toNat / 16), hexDigit (c.toNat % 16)]
  else [c]

def quoted (s : String) : List Char := '"' :: (s.toList.flatMap escape ++ ['"'])

mutual
def compactChars : Json → List Char
  | .null => ['n', 'u', 'l', 'l']
  | .bool true => ['t', 'r', 'u', 'e']
  | .bool false => ['f', 'a', 'l', 's', 'e']
  | .number spelling => spelling.toList
  | .string s => quoted s
  | .undecodable => ['n', 'u', 'l', 'l']
  | .array items => '[' :: (compactItems items ++ [']'])
  | .object members => '{' :: (compactMembers members ++ ['}'])
def compactItems : List Json → List Char
  | [] => []
  | [item] => compactChars item
  | item :: next :: rest => compactChars item ++ ',' :: compactItems (next :: rest)
def compactMembers : List (String × Json) → List Char
  | [] => []
  | [(name, value)] => quoted name ++ ':' :: compactChars value
  | (name, value) :: next :: rest =>
    quoted name ++ ':' :: (compactChars value ++ ',' :: compactMembers (next :: rest))
end

def compact (value : Json) : String := String.ofList value.compactChars

def lineBreak (level : Nat) : List Char := '\n' :: List.replicate (2 * level) ' '

mutual
def indentedChars (level : Nat) : Json → List Char
  | .null => ['n', 'u', 'l', 'l']
  | .bool true => ['t', 'r', 'u', 'e']
  | .bool false => ['f', 'a', 'l', 's', 'e']
  | .number spelling => spelling.toList
  | .string s => quoted s
  | .undecodable => ['n', 'u', 'l', 'l']
  | .array [] => ['[', ']']
  | .array (item :: rest) =>
    '[' :: (indentedItems (level + 1) (item :: rest) ++ (lineBreak level ++ [']']))
  | .object [] => ['{', '}']
  | .object (member :: rest) =>
    '{' :: (indentedMembers (level + 1) (member :: rest) ++ (lineBreak level ++ ['}']))
def indentedItems (level : Nat) : List Json → List Char
  | [] => []
  | [item] => lineBreak level ++ indentedChars level item
  | item :: next :: rest =>
    lineBreak level ++ (indentedChars level item ++ ',' :: indentedItems level (next :: rest))
def indentedMembers (level : Nat) : List (String × Json) → List Char
  | [] => []
  | [(name, value)] => lineBreak level ++ (quoted name ++ ':' :: ' ' :: indentedChars level value)
  | (name, value) :: next :: rest =>
    lineBreak level ++ (quoted name ++ ':' :: ' ' ::
      (indentedChars level value ++ ',' :: indentedMembers level (next :: rest)))
end

def indented (value : Json) : String := String.ofList (value.indentedChars 0)

end ClientPackager.Json
