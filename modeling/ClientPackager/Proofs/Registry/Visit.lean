import Mathlib.Data.List.Nodup
import ClientPackager.Client.Registry

set_option autoImplicit false

namespace ClientPackager.Client.Registry

open Contract (RecordTable)

def defined (registry : Registry) : List RecordId := registry.definitions.map Definition.id

theorem name_of_is_some (registry : Registry) (id : RecordId) :
    (registry.nameOf? id).isSome ↔ id ∈ registry.defined := by
  simp [nameOf?, defined, List.find?_isSome]

theorem name_of_eq_none (registry : Registry) (id : RecordId) :
    registry.nameOf? id = none ↔ id ∉ registry.defined := by
  rw [← name_of_is_some]
  simp

theorem name_of_definition (registry : Registry) (distinct : registry.defined.Nodup)
    (definition : Definition) (member : definition ∈ registry.definitions) :
    registry.nameOf? definition.id = some definition.name := by
  have named : (registry.nameOf? definition.id).isSome :=
    (name_of_is_some registry definition.id).mpr (List.mem_map_of_mem member)
  obtain ⟨name, found⟩ := Option.isSome_iff_exists.mp named
  obtain ⟨first, search, same⟩ := Option.map_eq_some_iff.mp found
  have sameId : first.id = definition.id := by simpa using List.find?_some search
  have unique : first = definition :=
    List.inj_on_of_nodup_map distinct (List.mem_of_find?_eq_some search) member sameId
  rw [found, ← same, unique]

@[simp] theorem defined_define (table : RecordTable) (method : String) (registry : Registry) (id : RecordId) :
    (registry.define table method id).defined = registry.defined ++ [id] := by
  simp [define, defined]

@[simp] theorem definitions_add_typedef (registry : Registry) (typedef : Typedef) :
    (registry.addTypedef typedef).definitions = registry.definitions := by
  rw [addTypedef]
  split <;> rfl

theorem nodup_define (table : RecordTable) (method : String) (registry : Registry) (id : RecordId)
    (unnamed : id ∉ registry.defined) (distinct : registry.defined.Nodup) :
    (registry.define table method id).defined.Nodup := by
  rw [defined_define, List.nodup_append]
  refine ⟨distinct, List.nodup_singleton id, ?_⟩
  intro old member new last same
  exact unnamed (List.mem_singleton.mp last ▸ same ▸ member)

theorem visit_fresh (table : RecordTable) (method : String) (registry : Registry) (id : RecordId)
    (rest : List RecordId) (fresh : id ∉ registry.defined) :
    registry.visit table method (id :: rest) =
      (registry.define table method id).visit table method (fieldRecords table id ++ rest) := by
  rw [visit, if_pos ((name_of_eq_none registry id).mpr fresh)]

theorem visit_known (table : RecordTable) (method : String) (registry : Registry) (id : RecordId)
    (rest : List RecordId) (known : id ∈ registry.defined) :
    registry.visit table method (id :: rest) = registry.visit table method rest := by
  rw [visit, if_neg (fun missing => (name_of_eq_none registry id).mp missing known)]

-- The walk has two steps. What both of them keep holds at its end, where
-- nothing is pending any more; every fact about the walk is an instance.
theorem visit_preserves (table : RecordTable) (method : String)
    (invariant : Registry → List RecordId → Prop)
    (fresh : ∀ registry id rest, id ∉ registry.defined → invariant registry (id :: rest) →
      invariant (registry.define table method id) (fieldRecords table id ++ rest))
    (known : ∀ registry id rest, id ∈ registry.defined → invariant registry (id :: rest) →
      invariant registry rest)
    (registry : Registry) (pending : List RecordId) (start : invariant registry pending) :
    invariant (registry.visit table method pending) [] := by
  induction registry, pending using visit.induct table method with
  | case1 registry => simpa only [visit] using start
  | case2 registry id rest missing ih =>
      have unseen := (name_of_eq_none registry id).mp missing
      rw [visit_fresh table method registry id rest unseen]
      exact ih (fresh registry id rest unseen start)
  | case3 registry id rest present ih =>
      have seen : id ∈ registry.defined :=
        Classical.byContradiction fun unseen => present ((name_of_eq_none registry id).mpr unseen)
      rw [visit_known table method registry id rest seen]
      exact ih (known registry id rest seen start)

theorem visit_extends (table : RecordTable) (method : String) (registry : Registry)
    (pending : List RecordId) :
    registry.definitions <+: (registry.visit table method pending).definitions ∧
      (registry.visit table method pending).typedefs = registry.typedefs := by
  apply visit_preserves table method
    (fun later _ => registry.definitions <+: later.definitions ∧ later.typedefs = registry.typedefs)
  · intro later id rest _ kept
    exact ⟨kept.1.trans (List.prefix_append _ _), kept.2⟩
  · intro later id rest _ kept
    exact kept
  · exact ⟨List.prefix_refl _, rfl⟩

theorem visit_keeps_defined (table : RecordTable) (method : String) (registry : Registry)
    (pending : List RecordId) (id : RecordId) (member : id ∈ registry.defined) :
    id ∈ (registry.visit table method pending).defined :=
  ((visit_extends table method registry pending).1.map Definition.id).subset member

theorem visit_defines_pending (table : RecordTable) (method : String) (registry : Registry)
    (pending : List RecordId) (id : RecordId) (member : id ∈ pending) :
    id ∈ (registry.visit table method pending).defined := by
  have done : id ∈ (registry.visit table method pending).defined ∨ id ∈ ([] : List RecordId) := by
    apply visit_preserves table method (fun later open_ => id ∈ later.defined ∨ id ∈ open_)
    · intro later next rest _ waiting
      rcases waiting with defined | listed
      · exact .inl (by simp [defined])
      · rcases List.mem_cons.mp listed with rfl | later
        · exact .inl (by simp)
        · exact .inr (List.mem_append_right _ later)
    · intro later next rest seen waiting
      rcases waiting with defined | listed
      · exact .inl defined
      · rcases List.mem_cons.mp listed with rfl | later
        · exact .inl seen
        · exact .inr later
    · exact .inr member
  simpa using done

-- All registrations of a contract in one sequence: a type, and the method that
-- uses it.
def uses (contract : Contract) : List (String × Descriptor) :=
  contract.methods.flatMap fun method => (typesOf method).map fun type => (method.name, type)

def registerUses (table : RecordTable) (registry : Registry) (all : List (String × Descriptor)) : Registry :=
  all.foldl (fun registry use => registry.register table use.1 use.2) registry

def declared (contract : Contract) : Registry := (typedefsOf contract).foldl addTypedef empty

theorem of_contract_uses (contract : Contract) :
    ofContract contract = registerUses contract.records (declared contract) (uses contract) := by
  simp only [ofContract, declared, registerUses, uses, List.foldl_flatMap, List.foldl_map]

theorem register_uses_preserves (table : RecordTable) (invariant : Registry → Prop)
    (all : List (String × Descriptor))
    (kept : ∀ use ∈ all, ∀ registry, invariant registry → invariant (registry.register table use.1 use.2))
    (registry : Registry) (start : invariant registry) : invariant (registerUses table registry all) := by
  induction all generalizing registry with
  | nil => exact start
  | cons use rest ih =>
      apply ih
      · exact fun later member => kept later (List.mem_cons_of_mem use member)
      · exact kept use List.mem_cons_self registry start

theorem uses_keep_defined (table : RecordTable) (all : List (String × Descriptor)) (registry : Registry)
    (id : RecordId) (member : id ∈ registry.defined) : id ∈ (registerUses table registry all).defined := by
  apply register_uses_preserves table (fun later => id ∈ later.defined) all _ registry member
  exact fun use _ later defined => visit_keeps_defined table use.1 later use.2.records id defined

theorem uses_keep_typedefs (table : RecordTable) (all : List (String × Descriptor)) (registry : Registry) :
    (registerUses table registry all).typedefs = registry.typedefs := by
  apply register_uses_preserves table (fun later => later.typedefs = registry.typedefs) all _ registry rfl
  exact fun use _ later same => (visit_extends table use.1 later use.2.records).2.trans same

theorem uses_defined (table : RecordTable) (all : List (String × Descriptor)) (registry : Registry)
    (use : String × Descriptor) (listed : use ∈ all) (id : RecordId) (named : id ∈ use.2.records) :
    id ∈ (registerUses table registry all).defined := by
  induction all generalizing registry with
  | nil => simp at listed
  | cons first rest ih =>
      rcases List.mem_cons.mp listed with same | later
      · subst same
        exact uses_keep_defined table rest _ id (visit_defines_pending table use.1 registry use.2.records id named)
      · exact ih _ later

end ClientPackager.Client.Registry
