import ClientPackager.Catalog
import ClientPackager.Contract.OfReflection
import ClientPackager.Reflection.Encoding

set_option autoImplicit false

namespace ClientPackager.Catalog

-- A document that describes no service is skipped; any other fault ends the search.
def collect (order : MethodOrder) (catalog : Catalog) (doc : Reflection) : Outcome Catalog :=
  match Contract.ofReflection order doc with
  | .ok contract => .ok (catalog.insert contract)
  | .error fault => if fault.isInvalidContract then .ok catalog else .error fault

variable {m : Type → Type} [Monad m] [FileStore m]

def documents (dir : String) : m (Outcome (List String)) := do
  match ← FileStore.names dir with
  | .error _ => return .error (.io dir)
  | .ok names =>
    let paths := (names.mergeSort fun a b => !decide (b < a)).map (DiskPath.join dir)
    let files ← (paths.filter Reflection.isDocument).filterM FileStore.isFile
    return .ok files

def loadDirectory (order : MethodOrder) (dir : String) : ExceptT Fault m Catalog := do
  let paths ← ExceptT.mk (documents dir)
  paths.foldlM (fun catalog path => do
    let doc ← ExceptT.mk (Reflection.load path)
    ExceptT.mk (return collect order catalog doc)) empty

end ClientPackager.Catalog
