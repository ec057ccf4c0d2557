import ClientPackager.Archive.Stream
import ClientPackager.Catalog
import ClientPackager.Config

set_option autoImplicit false

namespace ClientPackager

inductive ServerFault where
  | notFound (package : String)
  | invalidPackageName (package : String) (cause : Fault)
  | generation (cause : Fault)
  | archive (cause : TreeFault)
deriving DecidableEq, Repr

namespace ServerFault

def message : ServerFault → String
  | .notFound package => s!"No exportable RSocket service for package '{package}'"
  | .invalidPackageName package cause => s!"Invalid package name '{package}': {cause.message}"
  | .generation cause => s!"Package generation failed: {cause.message}"
  | .archive cause => s!"Package archive failed: {cause.message}"

def isNotFound : ServerFault → Bool
  | .notFound _ => true
  | _ => false

def isClient : ServerFault → Bool
  | .notFound _ | .invalidPackageName _ _ => true
  | _ => false

def status : ServerFault → Nat
  | .notFound _ => 404
  | .invalidPackageName _ _ => 400
  | .generation _ | .archive _ => 500

end ServerFault

structure Server where
  catalog : Catalog
  config : Config

namespace Server

def description (config : Config) (short : String) : String :=
  s!"npm package to call RSocket {short} from {config.applicationName} App"

-- A package is packed whenever it is asked for, from the contract whose short name the
-- name of the package ends in.
def exportPackage (server : Server) (path : String) (version : Version) :
    Except ServerFault Archive := do
  let package := Text.dropLeading '/' path
  let short := Text.afterLast '/' package
  let some contract := (server.catalog.findByShortName? short).filter fun contract =>
    !contract.isEmpty | throw (.notFound package)
  let name ← (PackageName.parse package).mapError fun defect =>
    .invalidPackageName package defect.fault
  let spec : PackageSpec :=
    ⟨name, version, description server.config short, server.config.declarations⟩
  let bundle ← (Bundle.generate contract spec).mapError .generation
  (Archive.ofBundle .standard bundle).mapError .archive

end Server
end ClientPackager
