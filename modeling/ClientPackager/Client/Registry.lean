import ClientPackager.Contract

set_option autoImplicit false

namespace ClientPackager.Client

structure Definition where
  id : RecordId
  name : String
  properties : List Contract.Field
deriving DecidableEq, Repr

structure Registry where
  definitions : List Definition
  typedefs : List Typedef
deriving DecidableEq, Repr

namespace Registry

def empty : Registry := ⟨[], []⟩

def nameOf? (registry : Registry) (id : RecordId) : Option String :=
  (registry.definitions.find? (·.id == id)).map Definition.name

def names (registry : Registry) : List String :=
  registry.definitions.map Definition.name ++ registry.typedefs.map Typedef.name

-- The first of `base`, `base_2`, `base_3` and so on that is not in use. One more
-- candidate than there are names is enough.
def freshName (registry : Registry) (base : String) : String :=
  if base ∈ registry.names then
    let candidates := (List.range (registry.names.length + 1)).map fun n => s!"{base}_{n + 2}"
    (candidates.find? fun name => name ∉ registry.names).getD base
  else base

-- A record is named after itself and the first method that reaches it.
def define (table : Contract.RecordTable) (method : String) (registry : Registry) (id : RecordId) :
    Registry :=
  { registry with
    definitions := registry.definitions ++
      [⟨id, registry.freshName (id.simpleName ++ "_" ++ method), table.fieldsOf id⟩] }

def fieldRecords (table : Contract.RecordTable) (id : RecordId) : List RecordId :=
  (table.fieldsOf id).flatMap (·.type.records)

def undefined (table : Contract.RecordTable) (registry : Registry) : Nat :=
  table.records.countP fun record => (registry.nameOf? record.id).isNone

theorem nameOf?_define_of_isSome {table : Contract.RecordTable} {method : String}
    {registry : Registry} {id other : RecordId} (known : (registry.nameOf? other).isSome) :
    ((registry.define table method id).nameOf? other).isSome := by
  simp only [nameOf?, define, Option.isSome_map] at known ⊢
  rw [List.find?_append]
  cases found : registry.definitions.find? (·.id == other) with
  | none => simp [found] at known
  | some d => rfl

theorem nameOf?_define_self {table : Contract.RecordTable} {method : String} {registry : Registry}
    {id : RecordId} : ((registry.define table method id).nameOf? id).isSome := by
  simp only [nameOf?, define, Option.isSome_map]
  rw [List.find?_append]
  cases registry.definitions.find? (·.id == id) <;> simp

theorem countP_lt_of_imp {α : Type} {p q : α → Bool} {l : List α} {x : α}
    (implied : ∀ y ∈ l, p y → q y) (member : x ∈ l) (fresh : q x) (gone : p x = false) :
    l.countP p < l.countP q := by
  induction l with
  | nil => simp at member
  | cons y rest ih =>
    have below : ∀ z ∈ rest, p z → q z := fun z mem => implied z (List.mem_cons_of_mem y mem)
    rcases List.mem_cons.mp member with rfl | inner
    · have := List.countP_mono_left below
      simp [fresh, gone]
      omega
    · have less := ih below inner
      have here := implied y List.mem_cons_self
      cases py : p y
      · simp [List.countP_cons, py]
        omega
      · simp [py, here py, less]

theorem isNone_of_isNone_define {table : Contract.RecordTable} {method : String}
    {registry : Registry} {id other : RecordId}
    (missing : ((registry.define table method id).nameOf? other).isNone) :
    (registry.nameOf? other).isNone := by
  cases known : registry.nameOf? other with
  | none => rfl
  | some name =>
    have named : (registry.nameOf? other).isSome := by simp [known]
    have := @nameOf?_define_of_isSome table method registry id other named
    simp_all

theorem undefined_define_le (table : Contract.RecordTable) (method : String) (registry : Registry)
    (id : RecordId) : undefined table (registry.define table method id) ≤ undefined table registry :=
  List.countP_mono_left fun _ _ missing => isNone_of_isNone_define missing

theorem undefined_define_lt {table : Contract.RecordTable} {method : String} {registry : Registry}
    {id : RecordId} {record : Contract.Record} (found : table.get? id = some record)
    (missing : registry.nameOf? id = none) :
    undefined table (registry.define table method id) < undefined table registry := by
  have same : record.id = id := by simpa using List.find?_some found
  refine countP_lt_of_imp (fun _ _ gone => isNone_of_isNone_define gone)
    (List.mem_of_find?_eq_some found) (by simp [same, missing]) ?_
  have := @nameOf?_define_self table method registry id
  cases name : (registry.define table method id).nameOf? id <;> simp_all

-- Defines the pending records that have no name, each before the records that its
-- fields name, and those before the records that are pending after it.
def visit (table : Contract.RecordTable) (method : String) (registry : Registry) :
    List RecordId → Registry
  | [] => registry
  | id :: rest =>
    if registry.nameOf? id = none then
      visit table method (registry.define table method id) (fieldRecords table id ++ rest)
    else visit table method registry rest
termination_by pending => (undefined table registry, pending.length)
decreasing_by
  · have missing : registry.nameOf? id = none := by assumption
    cases found : table.get? id with
    | some record => exact Prod.Lex.left _ _ (undefined_define_lt found missing)
    | none =>
      have le := undefined_define_le table method registry id
      have short : (fieldRecords table id ++ rest).length < (id :: rest).length := by
        simp [fieldRecords, Contract.RecordTable.fieldsOf, found]
      rcases Nat.lt_or_eq_of_le le with less | same
      · exact Prod.Lex.left _ _ less
      · rw [same]
        exact Prod.Lex.right _ short
  · exact Prod.Lex.right _ (by simp)

def register (table : Contract.RecordTable) (method : String) (registry : Registry)
    (type : Descriptor) : Registry :=
  registry.visit table method type.records

def addTypedef (registry : Registry) (typedef : Typedef) : Registry :=
  if typedef.name ∈ registry.names then registry
  else { registry with typedefs := registry.typedefs ++ [typedef] }

-- The types of a method that its client names: those of parameters without a typedef,
-- from left to right, and that of the result.
def typesOf (method : Contract.Method) : List Descriptor :=
  (method.params.filter (·.typedef.isNone)).map Contract.Param.type ++ [method.result]

def typedefsOf (contract : Contract) : List Typedef :=
  contract.methods.flatMap fun method => method.params.filterMap Contract.Param.typedef

def ofContract (contract : Contract) : Registry :=
  contract.methods.foldl (fun registry method =>
      (typesOf method).foldl (register contract.records method.name) registry)
    ((typedefsOf contract).foldl addTypedef empty)

def size (registry : Registry) : Nat := registry.definitions.length

def isEmpty (registry : Registry) : Bool :=
  registry.definitions.isEmpty && registry.typedefs.isEmpty

end Registry
end ClientPackager.Client
