import ClientPackager.Decimal.Spelling
import ClientPackager.Json.Decode
import ClientPackager.Toml.Scalar
import ClientPackager.Toml.Table

set_option autoImplicit false

namespace ClientPackager.Toml

def skipComment : List Char → Option (List Char)
  | '#' :: rest =>
    let after := rest.dropWhile isPrintable
    if after = [] || (lineBreak? after).isSome then some after else none
  | cs => some cs

def skipFiller : Nat → List Char → Option (List Char)
  | 0, _ => none
  | fuel + 1, cs => do
    let cs ← skipComment (skipSpace cs)
    match lineBreak? cs with
    | some rest => skipFiller fuel rest
    | none => return cs

def isBareKeyChar (c : Char) : Bool := c.isAlphanum || c == '_' || c == '-'

def keyPart (cs : List Char) : Option (String × List Char) :=
  match cs with
  | '"' :: rest =>
    (basicString (rest.length + 1) rest).map fun (text, rest) => (String.ofList text, rest)
  | '\x27' :: rest => (literalString rest).map fun (text, rest) => (String.ofList text, rest)
  | _ =>
    let text := cs.takeWhile isBareKeyChar
    if text = [] then none else some (String.ofList text, cs.dropWhile isBareKeyChar)

def deepest : Nat := 80

def readKey : Nat → List Char → Option (List String × String × List Char)
  | 0, _ => none
  | room + 1, cs => do
    let (part, rest) ← keyPart (skipSpace cs)
    match skipSpace rest with
    | '.' :: rest =>
      let (path, last, rest) ← readKey room rest
      return (part :: path, last, rest)
    | rest => return ([], part, rest)

mutual
-- Here `room` bounds the arrays and tables that a value opens inside each other, and
-- `fuel` the calls.
def readValue (room : Nat) : Nat → List Char → Option (Json × List Char)
  | 0, _ => none
  | fuel + 1, cs =>
    match cs, room with
    | '[' :: _, 0 | '\x7b' :: _, 0 => none
    | '[' :: rest, room + 1 =>
      (readItems room fuel rest).map fun (items, rest) => (.array items, rest)
    | '\x7b' :: rest, room + 1 =>
      (readInline room fuel [] rest).map fun (entries, rest) =>
        (.object (membersOf entries), rest)
    | '"' :: _, _ | '\x27' :: _, _ => (readString cs).map fun (text, rest) => (.string text, rest)
    | _, _ =>
      let (text, rest) := scalarText cs
      (scalar? text).map fun value => (value, rest)
def readItems (room : Nat) : Nat → List Char → Option (List Json × List Char)
  | 0, _ => none
  | fuel + 1, cs => do
    match ← skipFiller (cs.length + 1) cs with
    | ']' :: rest => return ([], rest)
    | cs =>
      let (item, rest) ← readValue room fuel cs
      match ← skipFiller (rest.length + 1) rest with
      | ',' :: rest =>
        let (items, rest) ← readItems room fuel rest
        return (item :: items, rest)
      | ']' :: rest => return ([item], rest)
      | _ => none
def readInline (room : Nat) : Nat → Entries → List Char → Option (Entries × List Char)
  | 0, _, _ => none
  | fuel + 1, entries, cs => do
    match ← skipFiller (cs.length + 1) cs with
    | '\x7d' :: rest => return (entries, rest)
    | cs =>
      let (path, name, rest) ← readKey deepest cs
      match rest with
      | '=' :: rest =>
        let (value, rest) ← readValue room fuel (skipSpace rest)
        let entries ← entries.assign path name value
        match ← skipFiller (rest.length + 1) rest with
        | ',' :: rest => readInline room fuel entries rest
        | '\x7d' :: rest => return (entries, rest)
        | _ => none
      | _ => none
end

structure Document where
  entries : Entries
  header : List String

def readLine (document : Document) (cs : List Char) : Option (Document × List Char) := do
  match skipSpace cs with
  | '[' :: '[' :: rest =>
    let (path, name, rest) ← readKey deepest rest
    match rest with
    | ']' :: ']' :: rest =>
      return (⟨← document.entries.extend path name, path ++ [name]⟩, rest)
    | _ => none
  | '[' :: rest =>
    let (path, name, rest) ← readKey deepest rest
    match rest with
    | ']' :: rest => return (⟨← document.entries.define path name, path ++ [name]⟩, rest)
    | _ => none
  | cs =>
    if cs = [] || cs.head? = some '#' || (lineBreak? cs).isSome then return (document, cs)
    let (path, name, rest) ← readKey deepest cs
    match rest with
    | '=' :: rest =>
      let rest := skipSpace rest
      let (value, rest) ← readValue deepest (2 * rest.length + 2) rest
      return (⟨← document.entries.assignBelow document.header path name value, document.header⟩, rest)
    | _ => none

def readLines : Nat → Document → List Char → Option Document
  | 0, _, _ => none
  | fuel + 1, document, cs => do
    let (document, rest) ← readLine document cs
    let rest ← skipComment (skipSpace rest)
    match lineBreak? rest with
    | some rest => readLines fuel document rest
    | none => if rest = [] then return document else none

def parse (text : String) : Option Json := do
  let cs := match text.toList with
    | '\ufeff' :: rest => rest
    | cs => cs
  let document ← readLines (cs.length + 1) ⟨[], []⟩ cs
  return .object (membersOf document.entries)

def isEmpty : Json → Bool
  | .object [] | .array [] => true
  | _ => false

-- An integer has no more than 128 bits, of which one is for a minus sign; the size of
-- any other number is finite.
def numberFits (spelling : String) : Bool :=
  let unsigned := dropSign spelling.toList
  if unsigned.all Char.isDigit then
    match Text.ofDigits? 10 unsigned with
    | some n => if spelling.toList.head? = some '-' then n ≤ 1 <<< 127 else n < 1 <<< 128
    | none => false
  else (Decimal.ofSpelling unsigned).nearest?.isSome

mutual
def fits : Json → Bool
  | .number spelling => numberFits spelling
  | .array items => itemsFit items
  | .object members => membersFit members
  | _ => true
def itemsFit : List Json → Bool
  | [] => true
  | item :: rest => fits item && itemsFit rest
def membersFit : List (String × Json) → Bool
  | [] => true
  | (_, value) :: rest => fits value && membersFit rest
end

-- The manner for values that were TOML: an empty table or array says nothing, numbers
-- that are skipped fit, and an array may go on after the fields of a record.
def manner : Json.Manner := ⟨isEmpty, fits, true⟩

end ClientPackager.Toml
