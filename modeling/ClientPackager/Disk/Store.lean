import ClientPackager.Archive.Stream
import ClientPackager.Disk.Path

set_option autoImplicit false

namespace ClientPackager

inductive DiskFault where
  | notFound
  | alreadyExists
  | notADirectory
  | isADirectory
  | nameTooLong
  | busy
  | nul
  | notText
  | other (reason : String)
deriving DecidableEq, Repr

def DiskFault.reason : DiskFault → String
  | notFound => "No such file or directory (os error 2)"
  | alreadyExists => "File exists (os error 17)"
  | notADirectory => "Not a directory (os error 20)"
  | isADirectory => "Is a directory (os error 21)"
  | nameTooLong => "File name too long (os error 36)"
  | busy => "Device or resource busy (os error 16)"
  | nul => "file name contained an unexpected NUL byte"
  | notText => "stream did not contain valid UTF-8"
  | other reason => reason

inductive FileContent where
  | text (content : String)
  | archive (content : Archive)
deriving DecidableEq, Repr

inductive NodeKind where
  | directory
  | file
deriving DecidableEq, Repr

class FileStore (m : Type → Type) where
  kind? : String → m (Option NodeKind)
  readText : String → m (Except DiskFault String)
  names : String → m (Except DiskFault (List String))
  canonical : String → m (Except DiskFault String)
  makeDirectory : String → m (Except DiskFault Unit)
  write : String → FileContent → m (Except DiskFault Unit)
  rename : String → String → m (Except DiskFault Unit)

namespace FileStore

variable {m : Type → Type} [Monad m] [FileStore m]

def pathExists (path : String) : m Bool := do return (← kind? path).isSome

def isDirectory (path : String) : m Bool := do return (← kind? path) = some .directory

def isFile (path : String) : m Bool := do return (← kind? path) = some .file

def ensureDirectory (path : String) : m (Except DiskFault Unit) := do
  match ← makeDirectory path with
  | .ok _ => return .ok ()
  | .error fault => return if ← isDirectory path then .ok () else .error fault

def makeUpward : List String → m (Except DiskFault Unit)
  | [] => return .ok ()
  | path :: above => do
    match ← ensureDirectory path with
    | .error .notFound =>
      match ← makeUpward above with
      | .ok _ => ensureDirectory path
      | .error fault => return .error fault
    | result => return result

def makeDirectories (path : String) : m (Except DiskFault Unit) :=
  makeUpward (DiskPath.upward path)

end FileStore
end ClientPackager
