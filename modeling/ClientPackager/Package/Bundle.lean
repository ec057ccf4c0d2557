import ClientPackager.Client.Declarations
import ClientPackager.Client.Script
import ClientPackager.Package.Manifest

set_option autoImplicit false

namespace ClientPackager

structure PackageFile where
  path : String
  content : String
deriving DecidableEq, Repr

structure Bundle where
  files : List PackageFile
deriving DecidableEq, Repr

namespace Bundle

def empty : Bundle := ⟨[]⟩

def add (bundle : Bundle) (file : PackageFile) : Bundle := ⟨bundle.files ++ [file]⟩

def find? (bundle : Bundle) (path : String) : Option PackageFile :=
  bundle.files.find? (·.path == path)

def totalBytes (bundle : Bundle) : Nat :=
  total (bundle.files.map fun file => file.content.utf8ByteSize)

-- The manifest names the declarations only if they are among the files.
def assemble (spec : PackageSpec) (directory script : String) (declarations : Option String) :
    Bundle :=
  let declarations := if spec.declarations then declarations else none
  let manifest := { Manifest.ofSpec spec with types := declarations.map fun _ => declarationFile }
  ⟨[⟨directory ++ "/" ++ manifestFile, manifest.text⟩, ⟨directory ++ "/" ++ moduleFile, script⟩] ++
    match declarations with
    | some content => [⟨directory ++ "/" ++ declarationFile, content⟩]
    | none => []⟩

def renderScript (contract : Contract) : Outcome String :=
  Client.Script.render .standard contract (.ofContract contract)

def renderDeclarations (contract : Contract) : Outcome String :=
  Client.Declarations.render .standard contract (.ofContract contract)

def generate (contract : Contract) (spec : PackageSpec) : Outcome Bundle := do
  let script ← renderScript contract
  let declarations ← if spec.declarations then (renderDeclarations contract).map some else pure none
  return assemble spec contract.shortName script declarations

end Bundle
end ClientPackager
