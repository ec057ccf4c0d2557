import ClientPackager.Proofs.Client.Identifier
import ClientPackager.Proofs.Registry.Calls
import ClientPackager.Proofs.Registry.Naming

set_option autoImplicit false

namespace ClientPackager.Client.Registry

open Contract (RecordTable)

def Identifying (text : String) : Prop := ∀ c ∈ text.toList, isIdentifierChar c = true

instance (text : String) : Decidable (Identifying text) :=
  decidable_of_iff (text.toList.all isIdentifierChar = true) List.all_eq_true

-- The names that a registry gives to records. No word of TypeScript has the
-- underscore that joins their parts.
structure RecordName (name : String) : Prop where
  letters : Identifying name
  joined : '_' ∈ name.toList

theorem identifying_append (front back : String) :
    Identifying (front ++ back) ↔ Identifying front ∧ Identifying back := by
  simp only [Identifying, String.toList_append, List.forall_mem_append]

theorem underscore_identifying : Identifying "_" := by
  decide +kernel

theorem number_identifying (n : Nat) : Identifying (toString n) :=
  fun c listed => digit_kept c (Nat.isDigit_of_mem_toDigits (by decide) (by decide) (Nat.toList_repr ▸ listed))

theorem joined_record_name (front back : String) (first : Identifying front) (second : Identifying back) :
    RecordName (front ++ "_" ++ back) := by
  refine ⟨?_, by simp⟩
  rw [identifying_append, identifying_append]
  exact ⟨⟨first, underscore_identifying⟩, second⟩

theorem fresh_record_name (registry : Registry) (base : String) (record : RecordName base) :
    RecordName (registry.freshName base) := by
  rcases fresh_name_first_free registry base with ⟨_, same⟩ | ⟨_, k, _, same, _⟩
  · rwa [same]
  · rw [same]
    exact joined_record_name base (toString k) record.letters (number_identifying k)

-- The records that a call may give a name to.
inductive Leads (table : RecordTable) (type : Descriptor) : RecordId → Prop where
  | named (id : RecordId) (named : id ∈ type.records) : Leads table type id
  | field (parent id : RecordId) (reached : Leads table type parent) (declared : id ∈ fieldRecords table parent) :
      Leads table type id

def RecordNames (registry : Registry) : Prop := ∀ definition ∈ registry.definitions, RecordName definition.name

theorem define_record_names (table : RecordTable) (method : String) (registry : Registry) (id : RecordId)
    (simple : Identifying id.simpleName) (own : Identifying method) (before : RecordNames registry) :
    RecordNames (registry.define table method id) := by
  intro definition listed
  rcases List.mem_append.mp listed with old | new
  · exact before definition old
  · rw [List.mem_singleton.mp new]
    exact fresh_record_name registry _ (joined_record_name id.simpleName method simple own)

theorem register_record_names (table : RecordTable) (method : String) (type : Descriptor) (registry : Registry)
    (own : Identifying method) (simple : ∀ id, Leads table type id → Identifying id.simpleName)
    (before : RecordNames registry) : RecordNames (registry.register table method type) := by
  have walk : RecordNames (registry.register table method type) ∧ ∀ id ∈ ([] : List RecordId), Leads table type id := by
    apply visit_preserves table method fun later pending => RecordNames later ∧ ∀ id ∈ pending, Leads table type id
    · rintro later id rest _ ⟨named, wanted⟩
      have reached := wanted id List.mem_cons_self
      refine ⟨define_record_names table method later id (simple id reached) own named, fun other listed => ?_⟩
      rcases List.mem_append.mp listed with inField | waiting
      · exact .field id other reached inField
      · exact wanted other (List.mem_cons_of_mem id waiting)
    · rintro later id rest _ ⟨named, wanted⟩
      exact ⟨named, fun other listed => wanted other (List.mem_cons_of_mem id listed)⟩
    · exact ⟨before, fun id listed => .named id listed⟩
  exact walk.1

theorem calls_record_names (calls : List Call) (registry : Registry) (before : RecordNames registry)
    (plain : ∀ table method type, .register table method type ∈ calls →
      Identifying method ∧ ∀ id, Leads table type id → Identifying id.simpleName) :
    RecordNames (calls.foldl Call.apply registry) := by
  induction calls generalizing registry with
  | nil => exact before
  | cons call rest ih =>
      refine ih _ ?_ fun table method type listed => plain table method type (List.mem_cons_of_mem call listed)
      cases call with
      | register table method type =>
          obtain ⟨own, simple⟩ := plain table method type List.mem_cons_self
          exact register_record_names table method type registry own simple before
      | addTypedef typedef =>
          intro definition listed
          exact before definition (definitions_add_typedef registry typedef ▸ listed)

theorem record_name_of_id (registry : Registry) (all : RecordNames registry) (id : RecordId) (name : String)
    (named : registry.nameOf? id = some name) : RecordName name := by
  obtain ⟨definition, found, rfl⟩ := Option.map_eq_some_iff.mp named
  exact all definition (List.mem_of_find?_eq_some found)

end ClientPackager.Client.Registry
