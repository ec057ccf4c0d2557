import ClientPackager.Disk.Store

set_option autoImplicit false

namespace ClientPackager

structure ExportOptions where
  atomic : Bool
  overwrite : Bool
deriving DecidableEq, Repr

def ExportOptions.standard : ExportOptions := ⟨true, true⟩

namespace Export

-- Segments below the directory that a tree is written to. A single dot among them leads
-- nowhere.
abbrev Trail := List (List Char)

def isDot (segment : List Char) : Bool := segment = ['.']

def settled (trail : Trail) : Trail := (trail.reverse.dropWhile isDot).reverse

def above (trail : Trail) : Trail := settled (settled trail).dropLast

def plain (trail : Trail) : Trail := trail.filter fun segment => !isDot segment

-- The path of an empty trail ends in a slash.
def pathOf (base : String) : Trail → String
  | [] => DiskPath.join base ""
  | trail => trail.foldl (fun dir segment => DiskPath.join dir (String.ofList segment)) base

theorem length_settled_le (trail : Trail) : (settled trail).length ≤ trail.length := by
  have shorter : (trail.reverse.dropWhile isDot).length ≤ trail.reverse.length :=
    (List.dropWhile_sublist isDot).length_le
  simpa [settled] using shorter

theorem length_above_lt {trail : Trail} (below : trail ≠ []) :
    (above trail).length < trail.length := by
  have outer := length_settled_le (settled trail).dropLast
  have inner := length_settled_le trail
  have positive := List.length_pos_iff.2 below
  rw [List.length_dropLast] at outer
  unfold above
  omega

-- Adds a directory and those above it, up to one that is there already.
def climb (dirs : List Trail) (dir : Trail) : List Trail :=
  if dir = [] then dirs
  else if dirs.any (plain · = plain dir) then dirs
  else climb (dir :: dirs) (above dir)
termination_by dir.length
decreasing_by exact length_above_lt ‹_›

-- The directories that the files of a tree need, each after those above it. A trail
-- ends at the base, so a file that is the base itself (the root, or nothing but dots)
-- adds none; a walk by parents that misses the base would go on to the directories
-- above it, which are there already.
def directories (tree : FileTree) : List Trail :=
  let found := tree.paths.foldl (fun dirs path => climb dirs (above path.segments)) []
  found.mergeSort fun a b => !decide (plain b < plain a)

def temporaryPath (base : String) (trail : Trail) : String :=
  let ending := ".tmp"
  match (settled trail).getLast? with
  | some name => pathOf base (above trail ++ [name ++ ending.toList])
  | none => DiskPath.join (DiskPath.parent base) ((DiskPath.fileName? base).getD "" ++ ending)

variable {m : Type → Type} [Monad m]

def reportedAt {α : Type} (path : String) (action : m (Except DiskFault α)) :
    ExceptT TreeFault m α :=
  ExceptT.mk do return (← action).mapError fun fault => .disk path fault.reason

variable [FileStore m]

-- A file written atomically goes under another name first and is then moved to its own,
-- so that it is never there in part.
def save (options : ExportOptions) (base : String) (file : TreeFile) : ExceptT TreeFault m Unit := do
  let path := pathOf base file.path.segments
  let content := FileContent.text file.content
  let keep ← if options.overwrite then pure false else FileStore.pathExists (m := m) path
  if keep then return ()
  else if options.atomic then
    let temporary := temporaryPath base file.path.segments
    reportedAt temporary (FileStore.write temporary content)
    reportedAt path (FileStore.rename temporary path)
  else reportedAt path (FileStore.write path content)

def run (options : ExportOptions) (tree : FileTree) (base : String) : ExceptT TreeFault m Unit := do
  if !(← FileStore.pathExists (m := m) base) then throw (.fileNotFound base)
  let base ← reportedAt base (FileStore.canonical base)
  for dir in directories tree do
    let path := pathOf base dir
    reportedAt path (FileStore.makeDirectories path)
  for file in tree.files.items do
    save options base file

def buildAndRun (draft : Draft) (home base : String) : ExceptT TreeFault m FileTree := do
  let tree ← ExceptT.mk (return draft.build)
  run .standard tree (DiskPath.expandTilde home base)
  return tree

end Export
end ClientPackager
