import ClientPackager.Decimal.Shortest
import ClientPackager.Decimal.Spelling
import ClientPackager.Json.Basic

set_option autoImplicit false

namespace ClientPackager.Json

-- An integer that fits 64 bits, with a sign or without, is kept exactly; any other
-- number is a double.
inductive Number where
  | integer (n : Int)
  | double (negative : Bool) (size : Double)
deriving Repr, DecidableEq

namespace Number

def ofSpelling? (spelling : String) : Option Number :=
  let negative := spelling.toList.head? = some '-'
  let unsigned := if negative then spelling.toList.drop 1 else spelling.toList
  let size := Decimal.natAfter 0 unsigned
  if unsigned.all Char.isDigit && !negative && size < 1 <<< 64 then some (.integer size)
  else if unsigned.all Char.isDigit && negative && 0 < size && size ≤ 1 <<< 63 then
    some (.integer (-size))
  else (Decimal.ofSpelling unsigned).read?.map (.double negative ·)

def text : Number → String
  | .integer n => toString n
  | .double negative size => (if negative then "-" else "") ++ size.text

def textOf (spelling : String) : String := ((ofSpelling? spelling).map text).getD spelling

-- Neither zero nor too small for all the digits of a double.
def isTruthy : Number → Bool
  | .integer n => n ≠ 0
  | .double _ size => size.isNormal

def toQuotient : Number → Int × Nat
  | .integer n =>
    let (top, bottom) := ((Double.ofQuotient? n.natAbs 1).getD .zero).toQuotient
    (if n < 0 then -top else top, bottom)
  | .double negative size =>
    let (top, bottom) := size.toQuotient
    (if negative then -top else top, bottom)

def order (a b : Number) : Ordering :=
  compare (a.toQuotient.1 * b.toQuotient.2) (b.toQuotient.1 * a.toQuotient.2)

end Number

mutual
def normal : Json → Json
  | .number spelling => .number (Number.textOf spelling)
  | .array items => .array (normalItems items)
  | .object members => .object ((normalMembers members).mergeSort fun a b => a.1 ≤ b.1)
  | value => value
def normalItems : List Json → List Json
  | [] => []
  | item :: rest => normal item :: normalItems rest
def normalMembers : List (String × Json) → List (String × Json)
  | [] => []
  | (name, value) :: rest => (name, normal value) :: normalMembers rest
end

end ClientPackager.Json
