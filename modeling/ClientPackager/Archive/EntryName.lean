import ClientPackager.Text.Split

set_option autoImplicit false

namespace ClientPackager.Archive

def utf8 (cs : List Char) : List UInt8 := cs.flatMap String.utf8EncodeChar

-- A header has a field of a hundred bytes, into which a name is written piece by piece,
-- without segments that are a single dot unless nothing else is in it. A name that does
-- not fit stands in an entry of its own, and the start of it is written over what is in
-- the field already.
def nameSize : Nat := 100

def fitting : Nat → List Char → List Char
  | _, [] => []
  | room, c :: rest => if c.utf8Size ≤ room then c :: fitting (room - c.utf8Size) rest else []

def segments (name : List Char) : List (List Char) :=
  (Text.pieces '/' name).filter fun piece => piece ≠ [] && piece ≠ ['.']

def written (name : List Char) : List (List Char) :=
  let kept := segments name
  (if kept = [] then [['.']] else kept).intersperse ['/'] ++
    if name.getLast? = some '/' then [['/']] else []

def isWritable (room : Nat) (piece : List Char) : Bool :=
  (utf8 piece).length ≤ room && !piece.contains '\x00'

def writable : Nat → List (List Char) → List (List Char)
  | _, [] => []
  | room, piece :: rest =>
    if isWritable room piece then piece :: writable (room - (utf8 piece).length) rest else []

-- The field after a name has been written into it as far as it can be. A NUL ends the
-- name, and what comes after that is not changed.
def overwrite (field : List UInt8) (name : List Char) : List UInt8 :=
  let bytes := utf8 (writable nameSize (written name)).flatten
  (bytes ++ 0 :: field.drop (bytes.length + 1)).take nameSize

def isWhole (name : List Char) : Bool := writable nameSize (written name) = written name

def emptyField : List UInt8 := List.replicate nameSize 0

inductive NameDefect where
  | empty
  -- `before` is the part of the name before the piece with the NUL.
  | holdsNul (before : List Char)
deriving DecidableEq, Repr

def NameDefect.reason : NameDefect → String
  | .empty => "paths in archives must have at least one component when setting path for "
  | .holdsNul before =>
    "provided value contains a nul byte when setting path for " ++ String.ofList before

inductive EntryName where
  | short (field : List UInt8)
  | long (whole : List Char) (field : List UInt8)
deriving DecidableEq, Repr

def holdsNul (name : List Char) : NameDefect := .holdsNul (writable nameSize (written name)).flatten

namespace EntryName

def ofName (name : List Char) : Except NameDefect EntryName :=
  let start := fitting nameSize name
  if name = [] then .error .empty
  else if isWhole name then .ok (.short (overwrite emptyField name))
  else if (utf8 name).length < nameSize then .error (holdsNul name)
  else if isWhole start then .ok (.long name (overwrite (overwrite emptyField name) start))
  else .error (holdsNul start)

end EntryName
end ClientPackager.Archive
