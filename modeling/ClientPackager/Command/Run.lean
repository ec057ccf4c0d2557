import ClientPackager.Command.Failure
import ClientPackager.Command.Invocation
import ClientPackager.Command.Usage
import ClientPackager.Config
import ClientPackager.Contract.OfReflection
import ClientPackager.Disk.Export
import ClientPackager.Reflection.Encoding
import ClientPackager.Report.Generation
import ClientPackager.Report.Inspection
import ClientPackager.Report.Style
import ClientPackager.Server.Basic

set_option autoImplicit false

namespace ClientPackager
namespace Command

structure Setting where
  home : String
  settingsDir : String
  config : Option String
  today : Version
  styling : Bool
deriving DecidableEq, Repr

def doing {α : Type} (what : String) : Outcome α → Except Failure α
  | .ok value => .ok value
  | .error fault => .error ⟨some what, .fault fault⟩

def plainly {α : Type} : Outcome α → Except Failure α
  | .ok value => .ok value
  | .error fault => .error ⟨none, .fault fault⟩

def inTree {α : Type} : Except TreeFault α → Except Failure α
  | .ok value => .ok value
  | .error fault => .error ⟨none, .tree fault⟩

def orderOf (config : Config) (alphabetical : Bool) : MethodOrder :=
  if alphabetical then .alphabetical else config.methodOrder

def contractOf (order : MethodOrder) (path : String) (doc : Outcome Reflection) :
    Except Failure Contract := do
  let doc ← doing s!"failed to read {path}" doc
  doing s!"failed to introspect {doc.typeName}" (Contract.ofReflection order doc)

def formatted (format : OutputFormat) (value : Json) (pretty : String) : String :=
  match format with
  | .json => value.indented
  | .text => value.compact
  | .pretty => pretty

-- The name that is given, or else the one that the service advertises, or else its
-- short name.
def nameOf (choices : GenerateChoices) (contract : Contract) : Except Failure PackageName :=
  let named (what text : String) :=
    doing what ((PackageName.parse text).mapError PackageName.Defect.fault)
  match choices.packageName, contract.npmPackage with
  | some name, _ => named "invalid --package-name" name
  | none, some advertised => .ok advertised
  | none, none => named "service short name is not a valid package name" contract.shortName

def packageOf (choices : GenerateChoices) (config : Config) (today : Version)
    (contract : Contract) : Except Failure (PackageSpec × Bundle) := do
  if contract.isEmpty then
    throw ⟨some "nothing to generate", .fault (.contractNotFound contract.route.text)⟩
  let spec : PackageSpec := {
    name := ← nameOf choices contract
    version := (choices.version.map Version.mk).getD today
    description := choices.description.getD (Server.description config contract.shortName)
    declarations := config.declarations && !choices.noDeclarations }
  return (spec, ← plainly (Bundle.generate contract spec))

variable {m : Type → Type} [Monad m]

def onDisk {α : Type} (what : String) (action : m (Except DiskFault α)) : ExceptT Failure m α :=
  ExceptT.mk do return (← action).mapError fun fault => ⟨some what, .disk fault.reason⟩

variable [FileStore m]

def runInspect (config : Config) (format : OutputFormat) (setting : Setting) (document : String)
    (alphabetical : Bool) : ExceptT Failure m String := do
  let doc ← Reflection.load (m := m) document
  let contract ← ExceptT.mk (return contractOf (orderOf config alphabetical) document doc)
  let report := Inspection.ofContract contract
  return formatted format report.toJson (report.pretty setting.styling)

def writeArchive (home path : String) (bundle : Bundle) : ExceptT Failure m String := do
  let path := DiskPath.expandTilde home path
  let archive ← ExceptT.mk (return inTree (Archive.ofBundle .standard bundle))
  onDisk s!"failed to write {path}" (FileStore.write path (.archive archive))
  return path

def writeDirectory (home path : String) (bundle : Bundle) : ExceptT Failure m String := do
  let path := DiskPath.expandTilde home path
  onDisk s!"failed to create {path}" (FileStore.makeDirectories path)
  let build := Export.buildAndRun (m := m) (Draft.ofBundle bundle "/") home path
  discard (ExceptT.mk do return inTree (← build.run))
  return path

def displayed (path : String) : m String := do
  match ← FileStore.canonical path with
  | .ok full => return full
  | .error _ => return path

def runGenerate (config : Config) (format : OutputFormat) (setting : Setting)
    (choices : GenerateChoices) : ExceptT Failure m String := do
  let doc ← Reflection.load (m := m) choices.document
  let order := orderOf config choices.alphabetical
  let contract ← ExceptT.mk (return contractOf order choices.document doc)
  let (spec, bundle) ← ExceptT.mk (return packageOf choices config setting.today contract)
  let destination ← match choices.archive with
    | some path => writeArchive setting.home path bundle
    | none => writeDirectory setting.home (choices.output.getD ".") bundle
  let report : Generation := {
    package := spec.name.text
    version := spec.version.text
    files := bundle.files.map PackageFile.path
    bytes := bundle.totalBytes
    destination := ← displayed (m := m) destination
    archive := choices.archive.isSome }
  return formatted format report.toJson (report.pretty setting.styling)

def run (config : Config) (format : OutputFormat) (setting : Setting) :
    Command → ExceptT Failure m String
  | .inspect document alphabetical => do
    return (← runInspect config format setting document alphabetical) ++ "\n"
  | .generate choices => do return (← runGenerate config format setting choices) ++ "\n"
  | .completions shell => return Completions.script shell

end Command

inductive Ending where
  | refused (refusal : Arguments.Refusal)
  | unready (fault : Fault)
  | failed (failure : Failure)
  | finished (output : String)
deriving DecidableEq, Repr

def Ending.status : Ending → ExitStatus
  | refused refusal => refusal.status
  | unready _ => .failure
  | failed failure => failure.status
  | finished _ => .success

def Ending.output : Ending → String
  | finished output => output
  | refused .information => usage
  | _ => ""

def Ending.complaint : Ending → String
  | refused .invalid => usage
  | unready fault => "error: " ++ fault.message ++ "\n"
  | failed failure => "error: " ++ failure.message ++ "\n"
  | _ => ""

variable {m : Type → Type} [Monad m] [FileStore m]

namespace Invocation

def run (setting : Command.Setting) (invocation : Invocation) : m Ending := do
  match OutputFormat.parse invocation.format with
  | .error fault => return .unready fault
  | .ok format =>
    let named := invocation.config <|> setting.config
    match ← Config.load (m := m) setting.settingsDir named with
    | .error fault => return .unready fault
    | .ok config =>
      match ← (Command.run config format setting invocation.command).run with
      | .error failure => return .failed failure
      | .ok output => return .finished output

def runArguments (setting : Command.Setting) (args : List String) : m Ending := do
  match parse args with
  | .error refusal => return .refused refusal
  | .ok invocation => invocation.run setting

end Invocation
end ClientPackager
