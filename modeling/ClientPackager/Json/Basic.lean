set_option autoImplicit false

namespace ClientPackager

-- Members keep the order and the repetitions of the text they were read from; a number
-- keeps its spelling.
inductive Json where
  | null
  | bool (value : Bool)
  | number (spelling : String)
  | string (value : String)
  -- A string, or an object with a key, that holds half of a surrogate pair: it can be
  -- skipped but it denotes nothing.
  | undecodable
  | array (items : List Json)
  | object (members : List (String × Json))
deriving Repr, Inhabited

namespace Json

def int (n : Int) : Json := .number (if n < 0 then "-" ++ toString n.natAbs else toString n.natAbs)

def nat (n : Nat) : Json := .number (toString n)

def optional : Option String → Json
  | some s => .string s
  | none => .null

def get? (name : String) : Json → Option Json
  | .object members => members.lookup name
  | _ => none

def string? : Json → Option String
  | .string s => some s
  | _ => none

def bool? : Json → Option Bool
  | .bool b => some b
  | _ => none

def array? : Json → Option (List Json)
  | .array items => some items
  | _ => none

def int? : Json → Option Int
  | .number spelling =>
    let digits := spelling.toList.dropWhile (· == '-')
    if digits.all Char.isDigit then
      let size : Nat := digits.foldl (fun n c => 10 * n + (c.toNat - 48)) 0
      some (if spelling.toList.head? = some '-' then -(size : Int) else size)
    else none
  | _ => none

def nat? (value : Json) : Option Nat := value.int?.bind fun n => if 0 ≤ n then some n.toNat else none

end Json
end ClientPackager
