import ClientPackager.Json.Number
import ClientPackager.Json.Reader
import ClientPackager.Template.Basic

set_option autoImplicit false

namespace ClientPackager.Template

-- A tag stands in double braces: a path, a helper and its operands, or with `#` and `/`
-- the ends of a block, which `else` divides. Gaps may stand between the words of a tag
-- and need not, where it is plain that a word ends.
inductive Segment where
  | text (text : List Char)
  | value (path : FieldPath)
  | call (helper : String) (args : List Operand)
  | opening (helper : String) (args : List Operand)
  | orElse (helper : String) (args : List Operand)
  | otherwise
  | closing (helper : String)

namespace Segment

def ofBlock : Segment → Bool
  | opening _ _ | orElse _ _ | otherwise | closing _ => true
  | _ => false

end Segment

def isGap (c : Char) : Bool := c == ' ' || c == '\t' || c == '\n' || c == '\r'

def skipGap (cs : List Char) : List Char := cs.dropWhile isGap

def isNameChar (c : Char) : Bool :=
  c.isAlphanum || c == '_' || c == '-' || c == '$' || c == ':' || 0x80 ≤ c.toNat

def readName (cs : List Char) : Option (String × List Char) :=
  let name := cs.takeWhile isNameChar
  if name = [] then none else some (String.ofList name, cs.dropWhile isNameChar)

def endsName (cs : List Char) : Bool := !cs.head?.any isNameChar

def readStep : List Char → Option (String × List Char)
  | '[' :: rest =>
    match rest.dropWhile (· != ']') with
    | _ :: later => some (String.ofList (rest.takeWhile (· != ']')), later)
    | [] => none
  | cs => readName cs

def readSteps : Nat → List Char → List String × List Char
  | 0, cs => ([], cs)
  | _, [] => ([], [])
  | fuel + 1, mark :: rest =>
    match if mark = '.' || mark = '/' then readStep rest else none with
    | some (name, later) =>
      let (names, after) := readSteps fuel later
      (name :: names, after)
    | none => ([], mark :: rest)

def readPath (cs : List Char) : Option (FieldPath × List Char) := do
  let start := match cs with
    | '.' :: '/' :: rest => rest
    | 't' :: 'h' :: 'i' :: 's' :: '.' :: rest => rest
    | 't' :: 'h' :: 'i' :: 's' :: '/' :: rest => rest
    | _ => cs
  let (name, rest) ← readStep start
  let (names, rest) := readSteps rest.length rest
  return ((name :: names).filter (· ≠ "this"), rest)

def afterWord? (word : String) (cs : List Char) : Option (List Char) :=
  if word.toList.isPrefixOf cs then some (cs.drop word.length) else none

def isReserved (cs : List Char) : Bool :=
  ((afterWord? "as" cs).or (afterWord? "else" cs)).any fun rest => endsName (skipGap rest)

def exponentPart (cs : List Char) : List Char :=
  match cs with
  | 'E' :: '-' :: rest =>
    let digits := rest.takeWhile Char.isDigit
    if digits = [] then [] else 'E' :: '-' :: digits
  | 'E' :: rest =>
    let digits := rest.takeWhile Char.isDigit
    if digits = [] then [] else 'E' :: digits
  | _ => []

-- The characters need not be well formed as a number. No name goes on after them.
def numberChars (cs : List Char) : Option (List Char) := do
  let sign := cs.takeWhile (· == '-')
  let rest := cs.drop sign.length
  let whole := rest.takeWhile Char.isDigit
  guard (sign.length ≤ 1 && whole ≠ [])
  let rest := rest.drop whole.length
  let point := if rest.head? = some '.' then ['.'] else []
  let fraction := (rest.drop point.length).takeWhile Char.isDigit
  let mantissa := sign ++ whole ++ point ++ fraction
  let number := mantissa ++ exponentPart (cs.drop mantissa.length)
  guard (endsName (cs.drop number.length))
  return number

def readLiteral (cs : List Char) : Option (Json × List Char) :=
  let word (text : String) (value : Json) : Option (Json × List Char) := do
    let rest ← afterWord? text cs
    guard (endsName rest)
    return (value, rest)
  match cs.head? with
  | some '"' | some '[' | some '\x7b' => Json.readValue (2 * cs.length + 2) cs
  | _ => (word "true" (.bool true)).or ((word "false" (.bool false)).or (word "null" .null))

-- What looks like a number is one or nothing.
def readOperand (cs : List Char) : Option (Operand × List Char) :=
  if isReserved cs then none
  else match numberChars cs with
    | some number =>
      let spelling := String.ofList number
      if (Json.numberSpelling number).map (·.2) = some [] && (Json.Number.ofSpelling? spelling).isSome
      then some (.literal (.number spelling), cs.drop number.length)
      else none
    | none =>
      ((readLiteral cs).map fun (value, rest) => (.literal value, rest)).or
        ((readPath cs).map fun (path, rest) => (.field path, rest))

def readOperands : Nat → List Char → List Operand × List Char
  | 0, cs => ([], cs)
  | fuel + 1, cs =>
    match readOperand (skipGap cs) with
    | some (operand, rest) =>
      let (operands, after) := readOperands fuel rest
      (operand :: operands, after)
    | none => ([], cs)

def readCall (cs : List Char) : Option (String × List Operand × List Char) := do
  let (name, rest) ← readName cs
  return (name, readOperands rest.length rest)

def readContent (cs : List Char) : Option (Segment × List Char) :=
  match readCall cs with
  | some (helper, arg :: args, rest) => some (.call helper (arg :: args), rest)
  | _ => do
    let (path, rest) ← readPath cs
    let text := String.ofList (cs.take (cs.length - rest.length))
    return (if helpers.contains text then .call text [] else .value path, rest)

def closed? (cs : List Char) : Option (List Char) :=
  match skipGap cs with
  | '\x7d' :: '\x7d' :: rest => some rest
  | _ => none

def readDivider (cs : List Char) : Option (Segment × List Char) := do
  let rest ← (afterWord? "else" cs).or (afterWord? "^" cs)
  match closed? rest with
  | some rest => return (.otherwise, rest)
  | none =>
    let (helper, args, rest) ← readCall (skipGap rest)
    return (.orElse helper args, ← closed? rest)

def readTag (cs : List Char) : Option (Segment × List Char) :=
  match skipGap cs with
  | '#' :: rest => do
    let (helper, args, rest) ← readCall (skipGap rest)
    return (.opening helper args, ← closed? rest)
  | '/' :: rest => do
    let (helper, rest) ← readName (skipGap rest)
    return (.closing helper, ← closed? rest)
  | '\x7b' :: rest => do
    let (segment, rest) ← readContent (skipGap rest)
    match skipGap rest with
    | '\x7d' :: rest => return (segment, ← closed? rest)
    | _ => none
  | cs => (readDivider cs).or do
    let (segment, rest) ← readContent cs
    return (segment, ← closed? rest)

end ClientPackager.Template
