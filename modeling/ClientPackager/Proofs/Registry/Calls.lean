import ClientPackager.Proofs.Registry.Names

set_option autoImplicit false

namespace ClientPackager.Client.Registry

open Contract (RecordTable)

-- Everything that can be done to a registry, in any order and with a table of
-- records of its own each time.
inductive Call where
  | register (table : RecordTable) (method : String) (type : Descriptor)
  | addTypedef (typedef : Typedef)

def Call.apply (registry : Registry) : Call → Registry
  | .register table method type => registry.register table method type
  | .addTypedef typedef => registry.addTypedef typedef

def afterCalls (calls : List Call) : Registry := calls.foldl Call.apply empty

structure Distinct (registry : Registry) : Prop where
  ids : registry.defined.Nodup
  names : registry.names.Nodup

structure Extends (before after : Registry) : Prop where
  definitions : before.definitions <+: after.definitions
  typedefs : before.typedefs <+: after.typedefs

theorem defined_visit (table : RecordTable) (method : String) (registry : Registry) (pending : List RecordId)
    (distinct : registry.defined.Nodup) : (registry.visit table method pending).defined.Nodup := by
  apply visit_preserves table method (fun later _ => later.defined.Nodup)
  · exact fun later id _ unnamed before => nodup_define table method later id unnamed before
  · exact fun _ _ _ _ before => before
  · exact distinct

theorem call_distinct (call : Call) (registry : Registry) (distinct : Distinct registry) :
    Distinct (call.apply registry) := by
  cases call with
  | register table method type =>
      exact ⟨defined_visit table method registry type.records distinct.ids,
        names_visit table method registry type.records distinct.names⟩
  | addTypedef typedef =>
      have same : (registry.addTypedef typedef).defined = registry.defined := by
        rw [defined, definitions_add_typedef, defined]
      exact ⟨same ▸ distinct.ids, names_add_typedef registry typedef distinct.names⟩

theorem calls_distinct (calls : List Call) (registry : Registry) (distinct : Distinct registry) :
    Distinct (calls.foldl Call.apply registry) := by
  induction calls generalizing registry with
  | nil => exact distinct
  | cons call rest ih => exact ih _ (call_distinct call registry distinct)

theorem call_extends (call : Call) (registry : Registry) : Extends registry (call.apply registry) := by
  cases call with
  | register table method type =>
      obtain ⟨definitions, same⟩ := visit_extends table method registry type.records
      exact ⟨definitions, same ▸ List.prefix_refl _⟩
  | addTypedef typedef =>
      simp only [Call.apply, addTypedef]
      split
      · exact ⟨List.prefix_refl _, List.prefix_refl _⟩
      · exact ⟨List.prefix_refl _, List.prefix_append _ _⟩

theorem calls_extend (calls : List Call) (registry : Registry) :
    Extends registry (calls.foldl Call.apply registry) := by
  induction calls generalizing registry with
  | nil => exact ⟨List.prefix_refl _, List.prefix_refl _⟩
  | cons call rest ih =>
      have step := call_extends call registry
      have later := ih (call.apply registry)
      exact ⟨step.definitions.trans later.definitions, step.typedefs.trans later.typedefs⟩

theorem extends_keeps_name (before after : Registry) (longer : Extends before after) (id : RecordId) (name : String)
    (named : before.nameOf? id = some name) : after.nameOf? id = some name := by
  obtain ⟨added, grown⟩ := longer.definitions
  obtain ⟨definition, found, same⟩ := Option.map_eq_some_iff.mp named
  rw [nameOf?, ← grown, List.find?_append, found]
  exact congrArg some same

-- The walk passes over what has a name, without a look at the fields.
theorem visit_all_known (table : RecordTable) (method : String) (registry : Registry) (pending : List RecordId)
    (known : ∀ id ∈ pending, id ∈ registry.defined) : registry.visit table method pending = registry := by
  induction pending with
  | nil => rw [visit]
  | cons id rest ih =>
      rw [visit_known table method registry id rest (known id List.mem_cons_self)]
      exact ih fun later member => known later (List.mem_cons_of_mem id member)

theorem registered_type_defined (calls : List Call) (registry : Registry) (table : RecordTable) (method : String)
    (type : Descriptor) (called : .register table method type ∈ calls) :
    ∀ id ∈ type.records, id ∈ (calls.foldl Call.apply registry).defined := by
  intro id named
  obtain ⟨front, back, split⟩ := List.append_of_mem called
  have present : id ∈ ((front.foldl Call.apply registry).register table method type).defined :=
    visit_defines_pending table method _ type.records id named
  have longer := calls_extend back ((front.foldl Call.apply registry).register table method type)
  rw [split, List.foldl_append, List.foldl_cons]
  exact (longer.definitions.map Definition.id).subset present

theorem registry_only_grows (calls later : List Call) :
    (afterCalls calls).defined.Nodup ∧
    (afterCalls calls).names.Nodup ∧
    Extends (afterCalls calls) (afterCalls (calls ++ later)) ∧
    (∀ id name, (afterCalls calls).nameOf? id = some name →
      (afterCalls (calls ++ later)).nameOf? id = some name) ∧
    (∀ table method type, .register table method type ∈ calls → ∀ otherTable otherMethod,
      (afterCalls calls).register otherTable otherMethod type = afterCalls calls) := by
  have distinct : Distinct (afterCalls calls) := calls_distinct calls empty ⟨List.nodup_nil, List.nodup_nil⟩
  have longer : Extends (afterCalls calls) (afterCalls (calls ++ later)) := by
    rw [afterCalls, afterCalls, List.foldl_append]
    exact calls_extend later _
  refine ⟨distinct.ids, distinct.names, longer, extends_keeps_name _ _ longer, ?_⟩
  intro table method type called otherTable otherMethod
  exact visit_all_known otherTable otherMethod _ type.records
    (registered_type_defined calls empty table method type called)

end ClientPackager.Client.Registry
