import ClientPackager.Contract
import ClientPackager.Disk.Store
import ClientPackager.Fault
import ClientPackager.Json.Decode
import ClientPackager.SocketAddress
import ClientPackager.Text.Basic
import ClientPackager.Text.Split
import ClientPackager.Toml.Reader

set_option autoImplicit false

namespace ClientPackager

structure Config where
  applicationName : String := "rsocket-app"
  contractsDir : String := "contracts"
  bind : String := "127.0.0.1:8080"
  baseUrl : Option String := none
  methodOrder : MethodOrder := .declaration
  declarations : Bool := true
deriving DecidableEq, Repr

namespace Config

def bindAddress (config : Config) : Outcome SocketAddress :=
  match SocketAddress.parse config.bind with
  | some address => .ok address
  | none => .error (.config s!"invalid bind address '{config.bind}': invalid socket address syntax")

def isUrl (text : String) : Bool :=
  Text.hasLeading "http://" text || Text.hasLeading "https://" text

def validate (config : Config) : Outcome Unit := do
  if Text.blank config.applicationName then throw (.config "application_name cannot be empty")
  discard config.bindAddress
  match config.baseUrl with
  | some base =>
    if isUrl base then return ()
    else throw (.config s!"base_url '{base}' must start with http:// or https://")
  | none => return ()

def publicBaseUrl (config : Config) : String :=
  match config.baseUrl with
  | some base => Text.dropTrailing '/' base
  | none => "http://" ++ config.bind

def ofValue? (manner : Json.Manner) (value : Json) : Option Config := do
  let [applicationName, contractsDir, bind, baseUrl, methodOrder, declarations] ←
    value.fields manner ["application_name", "contracts_dir", "bind", "base_url", "method_ordering",
      "emit_declarations"] 0 | none
  let default : Config := {}
  let order? (value : Json) := (value.label manner).bind MethodOrder.ofLabel?
  return {
    applicationName := ← Json.orElse default.applicationName Json.string? applicationName
    contractsDir := ← Json.orElse default.contractsDir Json.string? contractsDir
    bind := ← Json.orElse default.bind Json.string? bind
    baseUrl := ← Json.nullable Json.string? baseUrl
    methodOrder := ← Json.orElse default.methodOrder order? methodOrder
    declarations := ← Json.orElse default.declarations Json.bool? declarations }

def ofJson? : Json → Option Config := ofValue? .plain

def toJson (config : Config) : Json := .object [
  ("application_name", .string config.applicationName),
  ("contracts_dir", .string config.contractsDir),
  ("bind", .string config.bind),
  ("base_url", .optional config.baseUrl),
  ("method_ordering", .string config.methodOrder.label),
  ("emit_declarations", .bool config.declarations)]

def ofToml (text : String) : Outcome Config :=
  match (Toml.parse text).bind (ofValue? Toml.manner) with
  | some config => config.validate.map fun _ => config
  | none => .error .unreadableConfig

variable {m : Type → Type} [Monad m] [FileStore m]

def loadFrom (path : String) : m (Outcome Config) := do
  match ← FileStore.readText path with
  | .ok text => return ofToml text
  | .error _ => return .error (.io path)

def usualPath (settingsDir : String) : String :=
  DiskPath.join (DiskPath.join settingsDir "rsocket-export") "config.toml"

-- A file that is named has to be there; without one, the usual file is read if it is
-- there.
def load (settingsDir : String) (named : Option String) : m (Outcome Config) := do
  match named with
  | some path => loadFrom path
  | none =>
    let usual := usualPath settingsDir
    if ← FileStore.pathExists usual then loadFrom usual else return .ok {}

end Config
end ClientPackager
