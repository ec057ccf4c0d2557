import ClientPackager.Text.Basic

set_option autoImplicit false

namespace ClientPackager

inductive SocketAddress where
  | v4 (host : Vector UInt8 4) (port : UInt16)
  | v6 (host : Vector UInt16 8) (scope : UInt32) (port : UInt16)
deriving DecidableEq, Repr

namespace SocketAddress

def number? (radix bound width : Nat) (cs : List Char) : Option (Nat × List Char) :=
  let isDigit (c : Char) : Bool := (Text.digitValue? radix c).isSome
  let digits := cs.takeWhile isDigit
  match Text.ofDigits? radix digits with
  | some value =>
    if digits ≠ [] ∧ digits.length ≤ width ∧ value < bound then some (value, cs.dropWhile isDigit)
    else none
  | none => none

def octet? (cs : List Char) : Option (UInt8 × List Char) := do
  let (value, rest) ← number? 10 256 3 cs
  if cs.head? = some '0' ∧ rest.length + 1 < cs.length then none
  return (.ofNat value, rest)

def expect (c : Char) : List Char → Option (List Char)
  | head :: rest => if head = c then some rest else none
  | [] => none

def host4? (cs : List Char) : Option (Vector UInt8 4 × List Char) := do
  let (a, cs) ← octet? cs
  let (b, cs) ← octet? (← expect '.' cs)
  let (c, cs) ← octet? (← expect '.' cs)
  let (d, cs) ← octet? (← expect '.' cs)
  return (#v[a, b, c, d], cs)

def group (high low : UInt8) : UInt16 := 256 * high.toUInt16 + low.toUInt16

def groupsOf (host : Vector UInt8 4) : List UInt16 :=
  [group host[0] host[1], group host[2] host[3]]

-- At most `room` groups with colons between them, and whether the last two are written
-- as octets. `first` tells that no colon stands in front.
def groups (first : Bool) : Nat → List Char → List UInt16 × Bool × List Char
  | 0, cs => ([], false, cs)
  | room + 1, cs =>
    let start := if first then some cs else expect ':' cs
    let tail := if 0 < room then start.bind host4? else none
    match tail with
    | some (host, rest) => (groupsOf host, true, rest)
    | none =>
      match start.bind (number? 16 65536 4) with
      | some (value, rest) =>
        let (later, octets, rest) := groups false room rest
        (.ofNat value :: later, octets, rest)
      | none => ([], false, cs)

def sized (n : Nat) (values : List UInt16) : Vector UInt16 n := .ofFn fun i => values.getD i 0

-- Eight groups, or fewer with two colons in place of one or more that are zero.
def host6? (cs : List Char) : Option (Vector UInt16 8 × List Char) := do
  let (front, octets, rest) := groups true 8 cs
  if front.length = 8 then return (sized 8 front, rest)
  if octets then none
  let rest ← expect ':' (← expect ':' rest)
  let (back, _, rest) := groups true (7 - front.length) rest
  let zeros := List.replicate (8 - front.length - back.length) 0
  return (sized 8 (front ++ zeros ++ back), rest)

def scope (cs : List Char) : UInt32 × List Char :=
  match (expect '%' cs).bind fun rest => number? 10 4294967296 rest.length rest with
  | some (value, rest) => (.ofNat value, rest)
  | none => (0, cs)

def port? (cs : List Char) : Option UInt16 := do
  let rest ← expect ':' cs
  let (value, rest) ← number? 10 65536 rest.length rest
  if rest ≠ [] then none
  return .ofNat value

def v4? (cs : List Char) : Option SocketAddress := do
  let (host, rest) ← host4? cs
  return .v4 host (← port? rest)

def v6? (cs : List Char) : Option SocketAddress := do
  let (host, rest) ← host6? (← expect '[' cs)
  let (scope, rest) := scope rest
  return .v6 host scope (← port? (← expect ']' rest))

def parse (text : String) : Option SocketAddress := v4? text.toList <|> v6? text.toList

def dotted (octets : List UInt8) : String :=
  ".".intercalate (octets.map fun octet => toString octet.toNat)

def hex (group : UInt16) : String := String.ofList (Nat.toDigits 16 group.toNat)

def colons (groups : List UInt16) : String := ":".intercalate (groups.map hex)

def zeroRuns : List UInt16 → List Nat
  | [] => []
  | group :: rest =>
    let later := zeroRuns rest
    (if group = 0 then later.headD 0 + 1 else 0) :: later

-- The longest run of at least two zeros, or the first of those, is left out.
def shortened (groups : List UInt16) : String :=
  let runs := zeroRuns groups
  let longest := runs.foldl max 0
  if 2 ≤ longest then
    let start := runs.idxOf longest
    colons (groups.take start) ++ "::" ++ colons (groups.drop (start + longest))
  else colons groups

-- A host that stands for one of four octets ends in these.
def host6Text (host : Vector UInt16 8) : String :=
  match host.toList with
  | [0, 0, 0, 0, 0, 0xffff, a, b] =>
    "::ffff:" ++ dotted [(a >>> 8).toUInt8, a.toUInt8, (b >>> 8).toUInt8, b.toUInt8]
  | groups => shortened groups

def text : SocketAddress → String
  | .v4 host port => dotted host.toList ++ ":" ++ toString port.toNat
  | .v6 host scope port =>
    let scope := if scope = 0 then "" else "%" ++ toString scope.toNat
    "[" ++ host6Text host ++ scope ++ "]:" ++ toString port.toNat

end SocketAddress
end ClientPackager
