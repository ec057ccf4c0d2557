import ClientPackager.Contract
import ClientPackager.Keyed

set_option autoImplicit false

namespace ClientPackager

structure Catalog where
  contracts : Keyed Contract.route

namespace Catalog

def empty : Catalog := ⟨.empty⟩

def insert (catalog : Catalog) (contract : Contract) : Catalog :=
  ⟨catalog.contracts.insert contract⟩

def ofList (contracts : List Contract) : Catalog := contracts.foldl insert empty

def toList (catalog : Catalog) : List Contract := catalog.contracts.items

def findByShortName? (catalog : Catalog) (short : String) : Option Contract :=
  catalog.toList.find? fun contract => contract.shortName = short

def packages (catalog : Catalog) : List (PackageName × Contract) :=
  catalog.toList.filterMap fun contract => contract.npmPackage.map fun name => (name, contract)

def size (catalog : Catalog) : Nat := catalog.contracts.size

def isEmpty (catalog : Catalog) : Bool := catalog.contracts.isEmpty

end Catalog
end ClientPackager
