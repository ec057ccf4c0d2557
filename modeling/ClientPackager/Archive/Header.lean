import ClientPackager.Archive.EntryName
import ClientPackager.Text.Basic

set_option autoImplicit false

namespace ClientPackager.Archive

-- A number that its field is too small for keeps its last digits.
def digits (base : Nat) : Nat → Nat → List Nat
  | 0, _ => []
  | width + 1, n => digits base width (n / base) ++ [n % base]

def ofDigits (base : Nat) (ds : List Nat) : Nat := ds.foldl (fun n d => base * n + d) 0

theorem length_digits (base width n : Nat) : (digits base width n).length = width := by
  induction width generalizing n with
  | zero => rfl
  | succ width ih => simp [digits, ih]

def octal (width n : Nat) : List UInt8 := (digits 8 width n).map fun d => UInt8.ofNat (48 + d)

def bigEndian (width n : Nat) : List UInt8 := (digits 256 width n).map UInt8.ofNat

def octalField (width n : Nat) : List UInt8 := octal (width - 1) n ++ [0]

-- A field in octal, or, for a number with too many octal digits, in bytes after one
-- that is 128.
def numberField (width n : Nat) : List UInt8 :=
  if n < Nat.pow 8 (width - 1) then octalField width n else 0x80 :: bigEndian (width - 1) n

def blockSize : Nat := 512

inductive EntryKind where
  | regular
  -- The data is the name of the next entry, ended by a NUL.
  | longName
deriving DecidableEq, Repr

def EntryKind.code : EntryKind → UInt8
  | .regular => 0x30
  | .longName => 0x4c

-- Owner and group are zero, and the check sum counts its own field as blanks.
structure Header where
  name : List UInt8
  mode : UInt32
  size : Nat
  mtime : UInt64
  kind : EntryKind
deriving DecidableEq, Repr

namespace Header

def padded (width : Nat) (bytes : List UInt8) : List UInt8 := bytes.rightpad width 0

def leading (header : Header) : List UInt8 :=
  padded nameSize header.name ++ octalField 8 header.mode.toNat ++ octalField 8 0 ++
    octalField 8 0 ++ numberField 12 header.size ++ numberField 12 header.mtime.toNat

def trailing (header : Header) : List UInt8 :=
  [header.kind.code] ++ List.replicate 100 0 ++
    [0x75, 0x73, 0x74, 0x61, 0x72, 0x20, 0x20, 0x00] ++ List.replicate 247 0

def checksum (header : Header) : Nat :=
  total ((header.leading ++ List.replicate 8 0x20 ++ header.trailing).map UInt8.toNat)

def bytes (header : Header) : List UInt8 :=
  header.leading ++ octalField 8 header.checksum ++ header.trailing

end Header
end ClientPackager.Archive
