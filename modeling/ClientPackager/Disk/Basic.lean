import ClientPackager.Disk.Store
import ClientPackager.Keyed

set_option autoImplicit false

namespace ClientPackager

-- A place is the names that lead to it from the root, which is a directory always.
abbrev Place := List String

inductive Node where
  | directory
  | file (content : FileContent)
deriving DecidableEq, Repr

def Node.kind : Node → NodeKind
  | .directory => .directory
  | .file _ => .file

structure Disk.Entry where
  place : Place
  node : Node
deriving DecidableEq, Repr

structure Disk where
  working : Place
  entries : Keyed Disk.Entry.place

namespace Disk

def empty (working : Place) : Disk :=
  ⟨working, ((List.range working.length).map fun n => working.take (n + 1)).foldl
    (fun entries place => entries.insert ⟨place, .directory⟩) .empty⟩

def node? (disk : Disk) (place : Place) : Option Node :=
  if place = [] then some .directory else (disk.entries.find? place).map Entry.node

def put (disk : Disk) (place : Place) (node : Node) : Disk :=
  { disk with entries := disk.entries.insert ⟨place, node⟩ }

def remove (disk : Disk) (place : Place) : Disk :=
  { disk with entries := disk.entries.erase place }

def longestName : Nat := 255

def longestPath : Nat := 4095

def step (disk : Disk) (place : Place) (name : String) : Except DiskFault Place :=
  match disk.node? place with
  | none => .error .notFound
  | some (.file _) => .error .notADirectory
  | some .directory =>
    if name = "." then .ok place
    else if name = ".." then .ok place.dropLast
    else if longestName < name.utf8ByteSize then .error .nameTooLong
    else .ok (place ++ [name])

-- All steps of a path but the last have to be there.
structure Target where
  place : Place
  slashed : Bool
  dotted : Bool
deriving DecidableEq, Repr

def locate (disk : Disk) (path : String) : Except DiskFault Target := do
  if path.toList.contains '\x00' then throw .nul
  if path = "" then throw .notFound
  if longestPath < path.utf8ByteSize then throw .nameTooLong
  let names := (Text.splitOn '/' path).filter (· ≠ "")
  let start := if DiskPath.isAbsolute path then [] else disk.working
  let place ← names.foldlM disk.step start
  let dotted := names.getLast? = some "." || names.getLast? = some ".."
  return ⟨place, Text.hasTrailing "/" path, dotted⟩

def find (disk : Disk) (path : String) : Except DiskFault (Place × Node) := do
  let target ← disk.locate path
  match disk.node? target.place with
  | none => throw .notFound
  | some .directory => return (target.place, .directory)
  | some (.file content) =>
    if target.slashed then throw .notADirectory else return (target.place, .file content)

def readText (disk : Disk) (path : String) : Except DiskFault String := do
  match ← disk.find path with
  | (_, .file (.text content)) => return content
  | (_, .file (.archive _)) => throw .notText
  | (_, .directory) => throw .isADirectory

def nameIn? (dir place : Place) : Option String :=
  if place.dropLast = dir then place.getLast? else none

def names (disk : Disk) (path : String) : Except DiskFault (List String) := do
  match ← disk.find path with
  | (place, .directory) => return disk.entries.items.filterMap fun entry => nameIn? place entry.place
  | (_, .file _) => throw .notADirectory

def canonical (disk : Disk) (path : String) : Except DiskFault String := do
  return DiskPath.ofSteps true (← disk.find path).1

def makeDirectory (disk : Disk) (path : String) : Except DiskFault Disk := do
  let target ← disk.locate path
  if (disk.node? target.place).isSome then throw .alreadyExists
  return disk.put target.place .directory

def write (disk : Disk) (path : String) (content : FileContent) : Except DiskFault Disk := do
  let target ← disk.locate path
  if target.slashed || disk.node? target.place = some .directory then throw .isADirectory
  return disk.put target.place (.file content)

def rename (disk : Disk) (old new : String) : Except DiskFault Disk := do
  let source ← disk.locate old
  let target ← disk.locate new
  if source.dotted || target.dotted then throw .busy
  match disk.node? source.place with
  | none => throw .notFound
  | some .directory => throw .isADirectory
  | some (.file content) =>
    if source.slashed || target.slashed then throw .notADirectory
    if disk.node? target.place = some .directory then throw .isADirectory
    return (disk.remove source.place).put target.place (.file content)

def change (f : Disk → Except DiskFault Disk) : StateM Disk (Except DiskFault Unit) :=
  fun disk => match f disk with
    | .ok disk => (.ok (), disk)
    | .error fault => (.error fault, disk)

instance : FileStore (StateM Disk) where
  kind? path := fun disk => (((disk.find path).toOption).map fun (_, node) => node.kind, disk)
  readText path := fun disk => (disk.readText path, disk)
  names path := fun disk => (disk.names path, disk)
  canonical path := fun disk => (disk.canonical path, disk)
  makeDirectory path := change (·.makeDirectory path)
  write path content := change (·.write path content)
  rename old new := change (·.rename old new)

end Disk
end ClientPackager
