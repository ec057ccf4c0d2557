import ClientPackager.Archive.Header
import ClientPackager.Files.FileTree

set_option autoImplicit false

namespace ClientPackager

structure ArchiveOptions where
  mtime : UInt64
  mode : UInt32
  level : Fin 10
deriving DecidableEq, Repr

namespace ArchiveOptions

def standard : ArchiveOptions := ⟨0, 0o644, 6⟩

def withLevel (options : ArchiveOptions) (level : Nat) : ArchiveOptions :=
  { options with level := Fin.ofNat 10 (min level 9) }

end ArchiveOptions

namespace Archive

structure Entry where
  header : Header
  data : List UInt8
deriving DecidableEq, Repr

def blocks (data : List UInt8) : List UInt8 :=
  data ++ List.replicate ((blockSize - data.length % blockSize) % blockSize) 0

def Entry.bytes (entry : Entry) : List UInt8 := entry.header.bytes ++ blocks entry.data

def longLink : List Char := "././@LongLink".toList

def nameEntry (name : List Char) : Entry :=
  let data := utf8 name ++ [0]
  ⟨⟨utf8 longLink, 0o644, data.length, 0, .longName⟩, data⟩

def entriesOf (options : ArchiveOptions) (name content : String) :
    Except TreeFault (List Entry) :=
  let data := utf8 content.toList
  let entry (field : List UInt8) : Entry :=
    ⟨⟨field, options.mode, data.length, options.mtime, .regular⟩, data⟩
  match EntryName.ofName name.toList with
  | .ok (.short field) => .ok [entry field]
  | .ok (.long whole field) => .ok [nameEntry whole, entry field]
  | .error defect => .error (.archive name defect.reason)

end Archive

structure Archive where
  entries : List Archive.Entry
  level : Fin 10
deriving DecidableEq, Repr

namespace Archive

def bytes (archive : Archive) : List UInt8 :=
  archive.entries.flatMap Entry.bytes ++ List.replicate (2 * blockSize) 0

def ofTree (options : ArchiveOptions) (tree : FileTree) : Except TreeFault Archive := do
  let entries ← tree.files.items.mapM fun file =>
    entriesOf options file.path.relative file.content
  return ⟨entries.flatten, options.level⟩

def ofBundle (options : ArchiveOptions) (bundle : Bundle) : Except TreeFault Archive := do
  ofTree options (← (Draft.ofBundle bundle "/").build)

end Archive
end ClientPackager
