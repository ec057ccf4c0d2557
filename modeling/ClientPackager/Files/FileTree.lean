import ClientPackager.Files.FilePath
import ClientPackager.Keyed
import ClientPackager.Package.Bundle

set_option autoImplicit false

namespace ClientPackager

structure TreeFile where
  path : FilePath
  content : String
deriving DecidableEq, Repr

structure FileTree where
  files : Keyed TreeFile.path

namespace FileTree

def empty : FileTree := ⟨.empty⟩

def insert (tree : FileTree) (path : FilePath) (content : String) : FileTree :=
  ⟨tree.files.insert ⟨path, content⟩⟩

def add (tree : FileTree) (path content : String) : Except TreeFault FileTree := do
  return tree.insert (← FilePath.parse path) content

def read (tree : FileTree) (path : String) : Except TreeFault String := do
  let path ← FilePath.parse path
  match tree.files.find? path with
  | some file => return file.content
  | none => throw (.fileNotFound path.text)

def contains (tree : FileTree) (path : FilePath) : Bool := (tree.files.find? path).isSome

def fileExists (tree : FileTree) (path : String) : Bool :=
  match FilePath.parse path with
  | .ok path => tree.contains path
  | .error _ => false

def paths (tree : FileTree) : List FilePath := tree.files.items.map (·.path)

def children (tree : FileTree) (dir : String) : Except TreeFault (List FilePath) := do
  let dir ← FilePath.parse dir
  if tree.contains dir then throw (.notADirectory dir.text)
  return tree.paths.filter fun path => path.parent? = some dir

def size (tree : FileTree) : Nat := tree.files.size

def isEmpty (tree : FileTree) : Bool := tree.files.isEmpty

def totalBytes (tree : FileTree) : Nat :=
  total (tree.files.items.map fun file => file.content.utf8ByteSize)

end FileTree

structure Draft where
  tree : FileTree
  faults : List TreeFault

namespace Draft

def empty : Draft := ⟨.empty, []⟩

def add (draft : Draft) (path content : String) : Draft :=
  match draft.tree.add path content with
  | .ok tree => { draft with tree }
  | .error fault => { draft with faults := draft.faults ++ [fault] }

def addAll (draft : Draft) (files : List (String × String)) : Draft :=
  files.foldl (fun draft (path, content) => draft.add path content) draft

def directory (base : String) : String := if Text.hasTrailing "/" base then base else base ++ "/"

def ofBundle (bundle : Bundle) (base : String) : Draft :=
  empty.addAll (bundle.files.map fun file => (directory base ++ file.path, file.content))

def build (draft : Draft) : Except TreeFault FileTree :=
  match draft.faults with
  | [] => .ok draft.tree
  | fault :: _ => .error fault

end Draft
end ClientPackager
