import ClientPackager.Json.Basic

set_option autoImplicit false

namespace ClientPackager.Toml

-- A header defines a table once; keys with dots define tables on their way, which
-- neither a header nor keys from elsewhere may define again.
inductive Node where
  | leaf (value : Json)
  | table (implicit dotted : Bool) (entries : List (String × Node))
  | tables (items : List (List (String × Node)))

abbrev Entries := List (String × Node)

namespace Entries

def update (name : String) (change : Option Node → Option Node) : Entries → Option Entries
  | [] => (change none).map fun node => [(name, node)]
  | (key, node) :: rest =>
    if key = name then (change (some node)).map fun node => (key, node) :: rest
    else (update name change rest).map ((key, node) :: ·)

-- Changes the table at the end of a path. Missing tables are made on the way; the last
-- table of an array stands for the array. `viaKey` tells a path of a key from one of a
-- header, and `change` is told whether a dotted key made the table it gets.
def within (viaKey : Bool) (change : Bool → Entries → Option Entries) :
    List String → Bool → Entries → Option Entries
  | [], dotted, entries => change dotted entries
  | name :: path, _, entries =>
    update name (fun
      | none => (within viaKey change path viaKey []).map (.table true viaKey)
      | some (.table implicit dotted inner) =>
        if viaKey && !implicit then none
        else (within viaKey change path dotted inner).map (.table implicit dotted)
      | some (.tables items) => do
        let last ← items.getLast?
        let last ← within viaKey change path false last
        return .tables (items.dropLast ++ [last])
      | some (.leaf _) => none) entries

def add (name : String) (value : Json) : Entries → Option Entries :=
  update name fun
    | none => some (.leaf value)
    | some _ => none

def assign (path : List String) (name : String) (value : Json) (entries : Entries) :
    Option Entries :=
  within true (fun dotted inner => if dotted = path.isEmpty then none else add name value inner)
    path false entries

def define (path : List String) (name : String) (entries : Entries) : Option Entries :=
  within false (fun _ inner => update name (fun
    | none => some (.table false false [])
    | some (.table true false known) => some (.table false false known)
    | some _ => none) inner) path false entries

def extend (path : List String) (name : String) (entries : Entries) : Option Entries :=
  within false (fun _ inner => update name (fun
    | none => some (.tables [[]])
    | some (.tables items) => some (.tables (items ++ [[]]))
    | some _ => none) inner) path false entries

def assignBelow (header path : List String) (name : String) (value : Json) (entries : Entries) :
    Option Entries :=
  within false (fun _ inner => assign path name value inner) header false entries

end Entries

mutual
def Node.toJson : Node → Json
  | .leaf value => value
  | .table _ _ entries => .object (membersOf entries)
  | .tables items => .array (itemsOf items)
def membersOf : List (String × Node) → List (String × Json)
  | [] => []
  | (name, node) :: rest => (name, node.toJson) :: membersOf rest
def itemsOf : List (List (String × Node)) → List Json
  | [] => []
  | entries :: rest => .object (membersOf entries) :: itemsOf rest
end

end ClientPackager.Toml
