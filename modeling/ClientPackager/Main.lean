import Std.Time.Zoned
import ClientPackager.Archive.Gzip
import ClientPackager.Command.Run

set_option autoImplicit false

namespace ClientPackager

namespace DiskFault

def ofError : IO.Error → DiskFault
  | .noFileOrDirectory .. => .notFound
  | .alreadyExists .. => .alreadyExists
  | .resourceBusy .. => .busy
  | .inappropriateType _ 21 _ => .isADirectory
  | .inappropriateType .. => .notADirectory
  | .invalidArgument _ 36 _ => .nameTooLong
  | error => .other (toString error)

end DiskFault

namespace Machine

def attempt {α : Type} (paths : List String) (action : IO α) : IO (Except DiskFault α) := do
  if paths.any fun path => path.toList.contains '\x00' then return .error .nul
  try
    return .ok (← action)
  catch error =>
    return .error (.ofError error)

def kindOf (path : String) : IO NodeKind := do
  let place ← IO.FS.realPath path
  return if ← place.isDir then .directory else .file

def readText (path : String) : IO (Except DiskFault String) := do
  match ← attempt [path] (IO.FS.readBinFile path) with
  | .ok bytes =>
    match String.fromUTF8? bytes with
    | some text => return .ok text
    | none => return .error .notText
  | .error fault => return .error fault

def namesIn (path : String) : IO (List String) := do
  let place ← IO.FS.realPath path
  return (← place.readDir).toList.map fun entry => entry.fileName

def write (path : String) : FileContent → IO Unit
  | .text content => IO.FS.writeFile path content
  | .archive content => IO.FS.writeBinFile path ⟨(Archive.Gzip.file content).toArray⟩

instance : FileStore IO where
  kind? path := do return (← attempt [path] (kindOf path)).toOption
  readText := readText
  names path := attempt [path] (namesIn path)
  canonical path := attempt [path] do return (← IO.FS.realPath path).toString
  makeDirectory path := attempt [path] (IO.FS.createDir path)
  write path content := attempt [path] (write path content)
  rename old new := attempt [old, new] (IO.FS.rename old new)

def today : IO Version := do
  let date ← Std.Time.PlainDate.now
  let year := date.year.toInt
  let month := date.month.toNat
  let day := date.day.toNat
  if in_calendar : Date.isDay year month day = true then
    return .ofDate ⟨year, month, day, in_calendar⟩
  else throw (IO.userError "the clock shows no day of the calendar")

def fromEnvironment (name : String) : IO (Option String) := do
  return (← IO.getEnv name).filter (· ≠ "")

def setting : IO Command.Setting := do
  let home := (← fromEnvironment "HOME").getD "/"
  let settingsDir := (← fromEnvironment "XDG_CONFIG_HOME").filter DiskPath.isAbsolute
  return {
    home := home
    settingsDir := settingsDir.getD (DiskPath.join home ".config")
    config := ← fromEnvironment "RSOCKET_EXPORT_CONFIG"
    today := ← today
    styling := (← (← IO.getStdout).isTty) && (← fromEnvironment "NO_COLOR").isNone }

end Machine

end ClientPackager

def main (args : List String) : IO UInt32 := do
  let ending : ClientPackager.Ending ←
    ClientPackager.Invocation.runArguments (← ClientPackager.Machine.setting) args
  IO.print ending.output
  IO.eprint ending.complaint
  return UInt32.ofNat ending.status.code.toNat
