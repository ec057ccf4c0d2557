import ClientPackager.Archive.Stream

set_option autoImplicit false

namespace ClientPackager.Archive

-- Archives are read by the rules of the GNU format, from their bytes alone: what
-- stands here is the other side of the format, and takes over nothing of how an
-- archive is written but the kinds of entries and the size of a block.

def untilNul (bytes : List UInt8) : List UInt8 := bytes.takeWhile (· ≠ 0)

def isOctal (byte : UInt8) : Bool := 0x30 ≤ byte && byte ≤ 0x37

-- Octal digits up to a NUL or a blank; there may be blanks in front of them.
def octal? (field : List UInt8) : Option Nat :=
  let figures := (field.dropWhile (· = 0x20)).takeWhile fun byte => byte ≠ 0 && byte ≠ 0x20
  if figures ≠ [] ∧ figures.all isOctal = true then some (ofDigits 8 (figures.map fun byte => byte.toNat - 0x30))
  else none

-- Behind a byte that is 128 a number stands in base 256.
def number? (field : List UInt8) : Option Nat :=
  if field.head? = some 0x80 then some (ofDigits 256 (field.tail.map UInt8.toNat)) else octal? field

def kind? (code : UInt8) : Option EntryKind :=
  if code = 0x30 || code = 0 then some .regular else if code = 0x4c then some .longName else none

-- The widths of name, mode, owner, group, size, time, check sum, kind, name of a
-- link, format and what is left of a block.
def layout : List Nat := [100, 8, 8, 8, 12, 12, 8, 1, 100, 8, 247]

def cut : List Nat → List UInt8 → List (List UInt8)
  | [], _ => []
  | width :: widths, bytes => bytes.take width :: cut widths (bytes.drop width)

-- The sum of a block in which the eight bytes from 148 on count as blanks.
def sumOf (block : List UInt8) : Nat :=
  total ((block.take 148 ++ List.replicate 8 0x20 ++ block.drop 156).map UInt8.toNat)

-- "ustar", two blanks and a NUL.
def gnuFormat : List UInt8 := [0x75, 0x73, 0x74, 0x61, 0x72, 0x20, 0x20, 0x00]

structure Heading where
  name : List UInt8
  mode : Nat
  size : Nat
  mtime : Nat
  kind : EntryKind
deriving DecidableEq, Repr

def heading? (block : List UInt8) : Option Heading :=
  match cut layout block with
  | [name, mode, _, _, size, mtime, sum, [code], _, format, _] => do
      let mode ← number? mode
      let size ← number? size
      let mtime ← number? mtime
      let kind ← kind? code
      if octal? sum = some (sumOf block) ∧ format = gnuFormat then some ⟨untilNul name, mode, size, mtime, kind⟩
      else none
  | _ => none

-- The bytes that whole blocks for a count of bytes take.
def wholeBlocks (count : Nat) : Nat := (count + (blockSize - 1)) / blockSize * blockSize

-- A heading, the data that it announces and the stream behind the blocks of the data.
def record? (stream : List UInt8) : Option (Heading × List UInt8 × List UInt8) := do
  let heading ← heading? (stream.take blockSize)
  let body := stream.drop blockSize
  if stream.length < blockSize + wholeBlocks heading.size then none
  else some (heading, body.take heading.size, body.drop (wholeBlocks heading.size))

theorem record_shorter (stream data rest : List UInt8) (heading : Heading)
    (read : record? stream = some (heading, data, rest)) : rest.length < stream.length := by
  simp only [record?, Option.bind_eq_bind, Option.bind_eq_some_iff] at read
  obtain ⟨other, _, split⟩ := read
  split at split
  · simp at split
  · simp only [Option.some.injEq, Prod.mk.injEq] at split
    have shape := split.2.2
    simp only [← shape, List.length_drop, blockSize] at *
    omega

-- A file as it is found in an archive.
structure Member where
  name : List UInt8
  content : List UInt8
  mode : Nat
  mtime : Nat
deriving DecidableEq, Repr

-- Two blocks of NULs.
def ending : List UInt8 := List.replicate 1024 0

-- The files of a stream. An entry for a long name has no file: it gives the name
-- of the file behind it, and the name in the heading of that file is not used.
def members? (given : Option (List UInt8)) (stream : List UInt8) : Option (List Member) :=
  if stream = ending then if given = none then some [] else none
  else
    match _ : record? stream with
    | none => none
    | some (heading, data, rest) =>
      match heading.kind with
      | .longName => members? (some (untilNul data)) rest
      | .regular => do
          let others ← members? none rest
          return ⟨given.getD heading.name, data, heading.mode, heading.mtime⟩ :: others
termination_by stream.length
decreasing_by all_goals exact record_shorter stream data rest heading (by assumption)

end ClientPackager.Archive
