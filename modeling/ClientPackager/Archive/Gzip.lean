import ClientPackager.Archive.Stream

set_option autoImplicit false

namespace ClientPackager.Archive.Gzip

def effort (level : Fin 10) : UInt8 := if level.val = 9 then 2 else if level.val < 2 then 4 else 0

def header (level : Fin 10) : List UInt8 := [0x1f, 0x8b, 8, 0, 0, 0, 0, 0, effort level, 0xff]

def littleEndian (width n : Nat) : List UInt8 := (bigEndian width n).reverse

def polynomial : UInt32 := 0xedb88320

def bitStep (crc : UInt32) : UInt32 :=
  if crc &&& 1 = 1 then (crc >>> 1) ^^^ polynomial else crc >>> 1

def byteStep (crc : UInt32) (byte : UInt8) : UInt32 :=
  (List.range 8).foldl (fun crc _ => bitStep crc) (crc ^^^ byte.toUInt32)

def crc32 (data : List UInt8) : UInt32 := ~~~(data.foldl byteStep 0xffffffff)

def storedSize : Nat := 65535

def stored (final : UInt8) (data : List UInt8) : List UInt8 :=
  [final] ++ littleEndian 2 data.length ++ littleEndian 2 (storedSize - data.length) ++ data

def deflated (data : List UInt8) : List UInt8 :=
  if data.length ≤ storedSize then stored 1 data
  else stored 0 (data.take storedSize) ++ deflated (data.drop storedSize)
termination_by data.length
decreasing_by simp [storedSize] at *; omega

-- The check sum and the length of the data stand at the end, the least significant byte
-- first.
def file (archive : Archive) : List UInt8 :=
  let data := archive.bytes
  header archive.level ++ deflated data ++ littleEndian 4 (crc32 data).toNat ++
    littleEndian 4 data.length

end ClientPackager.Archive.Gzip
