import ClientPackager.Json.Basic
import ClientPackager.Text.Basic

set_option autoImplicit false

namespace ClientPackager.Json

def isSpace (c : Char) : Bool := c == ' ' || c == '\t' || c == '\n' || c == '\r'

def skipSpace (cs : List Char) : List Char := cs.dropWhile isSpace

def unescape (c : Char) : Option Nat :=
  if c = '"' || c = '\\' || c = '/' then some c.toNat
  else if c = 'n' then some 0x0a
  else if c = 'r' then some 0x0d
  else if c = 't' then some 0x09
  else if c = 'b' then some 0x08
  else if c = 'f' then some 0x0c
  else none

-- An escape of four hexadecimal digits gives one 16-bit unit.
def stringCodes : List Char → Option (List Nat × List Char)
  | '"' :: rest => some ([], rest)
  | '\\' :: 'u' :: a :: b :: c :: d :: rest => do
    let unit ← Text.ofDigits? 16 [a, b, c, d]
    let (codes, after) ← stringCodes rest
    return (unit :: codes, after)
  | '\\' :: c :: rest => do
    let code ← unescape c
    let (codes, after) ← stringCodes rest
    return (code :: codes, after)
  | c :: rest => do
    guard (0x20 ≤ c.toNat)
    let (codes, after) ← stringCodes rest
    return (c.toNat :: codes, after)
  | [] => none

def isHighSurrogate (code : Nat) : Bool := 0xd800 ≤ code && code ≤ 0xdbff
def isLowSurrogate (code : Nat) : Bool := 0xdc00 ≤ code && code ≤ 0xdfff

-- A pair of surrogates is one character, half of a pair is none.
def decodeCodes : List Nat → Option (List Char)
  | [] => some []
  | [code] =>
    if isHighSurrogate code || isLowSurrogate code then none else some [Char.ofNat code]
  | code :: next :: rest =>
    if isHighSurrogate code then
      if isLowSurrogate next then
        (decodeCodes rest).map
          (Char.ofNat (0x10000 + (code - 0xd800) * 0x400 + (next - 0xdc00)) :: ·)
      else none
    else if isLowSurrogate code then none
    else (decodeCodes (next :: rest)).map (Char.ofNat code :: ·)

def stringBody (cs : List Char) : Option (Option String × List Char) := do
  let (codes, rest) ← stringCodes cs
  return ((decodeCodes codes).map String.ofList, rest)

def digits1 (cs : List Char) : Option (List Char × List Char) :=
  let digits := cs.takeWhile Char.isDigit
  if digits = [] then none else some (digits, cs.dropWhile Char.isDigit)

def wholePart (cs : List Char) : Option (List Char × List Char) := do
  let (digits, rest) ← digits1 cs
  guard (digits.head? ≠ some '0' || digits.length = 1)
  return (digits, rest)

def fractionPart : List Char → Option (List Char × List Char)
  | '.' :: rest => (digits1 rest).map fun (digits, after) => ('.' :: digits, after)
  | cs => some ([], cs)

def exponentPart : List Char → Option (List Char × List Char)
  | [] => some ([], [])
  | mark :: rest =>
    if mark = 'e' || mark = 'E' then
      match rest with
      | sign :: later =>
        if sign = '+' || sign = '-' then
          (digits1 later).map fun (digits, after) => (mark :: sign :: digits, after)
        else (digits1 rest).map fun (digits, after) => (mark :: digits, after)
      | [] => none
    else some ([], mark :: rest)

def numberSpelling (cs : List Char) : Option (List Char × List Char) := do
  let (sign, cs) := match cs with
    | '-' :: rest => (['-'], rest)
    | _ => ([], cs)
  let (whole, cs) ← wholePart cs
  let (fraction, cs) ← fractionPart cs
  let (exponent, cs) ← exponentPart cs
  return (sign ++ whole ++ fraction ++ exponent, cs)

def ofMembers (members : List (Option String × Json)) : Json :=
  match members.mapM fun (name, value) => name.map fun name => (name, value) with
  | some members => .object members
  | none => .undecodable

mutual
def readValue : Nat → List Char → Option (Json × List Char)
  | 0, _ => none
  | fuel + 1, cs =>
    match skipSpace cs with
    | 'n' :: 'u' :: 'l' :: 'l' :: rest => some (.null, rest)
    | 't' :: 'r' :: 'u' :: 'e' :: rest => some (.bool true, rest)
    | 'f' :: 'a' :: 'l' :: 's' :: 'e' :: rest => some (.bool false, rest)
    | '"' :: rest => do
      let (text, rest) ← stringBody rest
      return (text.elim .undecodable .string, rest)
    | '[' :: rest => do
      match skipSpace rest with
      | ']' :: rest => return (.array [], rest)
      | _ =>
        let (items, rest) ← readItems fuel rest
        return (.array items, rest)
    | '{' :: rest => do
      match skipSpace rest with
      | '}' :: rest => return (.object [], rest)
      | _ =>
        let (members, rest) ← readMembers fuel rest
        return (ofMembers members, rest)
    | cs => (numberSpelling cs).map fun (spelling, rest) => (.number (String.ofList spelling), rest)
def readItems : Nat → List Char → Option (List Json × List Char)
  | 0, _ => none
  | fuel + 1, cs => do
    let (item, rest) ← readValue fuel cs
    match skipSpace rest with
    | ',' :: rest =>
      let (items, rest) ← readItems fuel rest
      return (item :: items, rest)
    | ']' :: rest => return ([item], rest)
    | _ => none
def readMembers : Nat → List Char → Option (List (Option String × Json) × List Char)
  | 0, _ => none
  | fuel + 1, cs => do
    match skipSpace cs with
    | '"' :: rest =>
      let (name, rest) ← stringBody rest
      match skipSpace rest with
      | ':' :: rest =>
        let (value, rest) ← readValue fuel rest
        match skipSpace rest with
        | ',' :: rest =>
          let (members, rest) ← readMembers fuel rest
          return ((name, value) :: members, rest)
        | '}' :: rest => return ([(name, value)], rest)
        | _ => none
      | _ => none
    | _ => none
end

-- Two calls for each character are enough: every second one consumes.
def parse (text : String) : Option Json :=
  let cs := text.toList
  match readValue (2 * cs.length + 2) cs with
  | some (value, rest) => if skipSpace rest = [] then some value else none
  | none => none

end ClientPackager.Json
