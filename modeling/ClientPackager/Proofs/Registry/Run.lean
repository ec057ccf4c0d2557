import ClientPackager.Proofs.Registry.Visit

set_option autoImplicit false

namespace ClientPackager.Client.Registry

open Contract (RecordTable Field Method)

-- Registration as a recursion over types from left to right: a wrapper is
-- entered, a record with a name is left as it is, any other record is defined
-- and after it the types of its fields are registered. A derivation is a run
-- that ends; no clause promises one, since records may name each other.
inductive TypesRun (table : RecordTable) (method : String) : Registry → List Descriptor → Registry → Prop where
  | nil (registry : Registry) : TypesRun table method registry [] registry
  | scalar (before after : Registry) (type : Descriptor) (rest : List Descriptor)
      (bare : type.argument? = none) (other : type.isRecord = false)
      (later : TypesRun table method before rest after) : TypesRun table method before (type :: rest) after
  | wrapper (before middle after : Registry) (type inner : Descriptor) (rest : List Descriptor)
      (wraps : type.argument? = some inner) (run : TypesRun table method before [inner] middle)
      (later : TypesRun table method middle rest after) : TypesRun table method before (type :: rest) after
  | known (before after : Registry) (id : RecordId) (rest : List Descriptor) (named : id ∈ before.defined)
      (later : TypesRun table method before rest after) : TypesRun table method before (.record id :: rest) after
  | fresh (before middle after : Registry) (id : RecordId) (rest : List Descriptor) (unnamed : id ∉ before.defined)
      (fields : TypesRun table method (before.define table method id) ((table.fieldsOf id).map Field.type) middle)
      (later : TypesRun table method middle rest after) : TypesRun table method before (.record id :: rest) after

inductive MethodsRun (table : RecordTable) : Registry → List Method → Registry → Prop where
  | nil (registry : Registry) : MethodsRun table registry [] registry
  | cons (before middle after : Registry) (method : Method) (rest : List Method)
      (types : TypesRun table method.name before (typesOf method) middle)
      (later : MethodsRun table middle rest after) : MethodsRun table before (method :: rest) after

theorem types_run_unique (table : RecordTable) (method : String) (before first second : Registry)
    (types : List Descriptor) (left : TypesRun table method before types first)
    (right : TypesRun table method before types second) : first = second := by
  induction left generalizing second with
  | nil => cases right; rfl
  | scalar _ _ type rest bare other _ ih =>
      cases right with
      | scalar _ _ _ _ _ _ later => exact ih second later
      | wrapper _ _ _ _ inner _ wraps => simp [bare] at wraps
      | known => simp [Descriptor.isRecord] at other
      | fresh => simp [Descriptor.isRecord] at other
  | wrapper _ middle _ type inner rest wraps _ _ ihInner ihRest =>
      cases right with
      | scalar _ _ _ _ bare => simp [bare] at wraps
      | wrapper _ next _ _ other _ wrapsOther run later =>
          have same : inner = other := Option.some.inj (wraps.symm.trans wrapsOther)
          subst same
          have reached := ihInner next run
          subst reached
          exact ihRest second later
      | known => simp [Descriptor.argument?] at wraps
      | fresh => simp [Descriptor.argument?] at wraps
  | known _ _ id rest named _ ih =>
      cases right with
      | scalar _ _ _ _ _ other => simp [Descriptor.isRecord] at other
      | wrapper _ _ _ _ _ _ wraps => simp [Descriptor.argument?] at wraps
      | known _ _ _ _ _ later => exact ih second later
      | fresh _ _ _ _ _ unnamed => exact absurd named unnamed
  | fresh _ middle _ id rest unnamed _ _ ihFields ihRest =>
      cases right with
      | scalar _ _ _ _ _ other => simp [Descriptor.isRecord] at other
      | wrapper _ _ _ _ _ _ wraps => simp [Descriptor.argument?] at wraps
      | known _ _ _ _ named => exact absurd named unnamed
      | fresh _ next _ _ _ _ fields later =>
          have reached := ihFields next fields
          subst reached
          exact ihRest second later

theorem methods_run_unique (table : RecordTable) (before first second : Registry) (methods : List Method)
    (left : MethodsRun table before methods first) (right : MethodsRun table before methods second) :
    first = second := by
  induction left with
  | nil => cases right; rfl
  | cons _ middle _ method rest types _ ih =>
      cases right with
      | cons _ middleOther _ _ _ typesOther laterOther =>
          have same := types_run_unique table method.name _ middle middleOther (typesOf method) types typesOther
          subst same
          exact ih laterOther

theorem types_run_append (table : RecordTable) (method : String) (before middle after : Registry)
    (first second : List Descriptor) (left : TypesRun table method before first middle)
    (right : TypesRun table method middle second after) :
    TypesRun table method before (first ++ second) after := by
  induction left with
  | nil => exact right
  | scalar before _ type rest bare other _ ih => exact .scalar before after type _ bare other (ih right)
  | wrapper before next _ type inner rest wraps run _ _ ih =>
      exact .wrapper before next after type inner _ wraps run (ih right)
  | known before _ id rest named _ ih => exact .known before after id _ named (ih right)
  | fresh before next _ id rest unnamed fields _ _ ih =>
      exact .fresh before next after id _ unnamed fields (ih right)

theorem types_run_split (table : RecordTable) (method : String) (before after : Registry)
    (first second : List Descriptor) (run : TypesRun table method before (first ++ second) after) :
    ∃ middle, TypesRun table method before first middle ∧ TypesRun table method middle second after := by
  induction first generalizing before with
  | nil => exact ⟨before, .nil before, run⟩
  | cons type rest ih =>
      cases run with
      | scalar _ _ _ _ bare other later =>
          obtain ⟨middle, left, right⟩ := ih before later
          exact ⟨middle, .scalar before middle type rest bare other left, right⟩
      | wrapper _ next _ _ inner _ wraps run later =>
          obtain ⟨middle, left, right⟩ := ih next later
          exact ⟨middle, .wrapper before next middle type inner rest wraps run left, right⟩
      | known _ _ id _ named later =>
          obtain ⟨middle, left, right⟩ := ih before later
          exact ⟨middle, .known before middle id rest named left, right⟩
      | fresh _ next _ id _ unnamed fields later =>
          obtain ⟨middle, left, right⟩ := ih next later
          exact ⟨middle, .fresh before next middle id rest unnamed fields left, right⟩

-- Wrappers hold one record or none, so only the records of a type matter.
theorem type_run_of_records (table : RecordTable) (method : String) (before after : Registry) (type : Descriptor)
    (run : TypesRun table method before (type.records.map .record) after) :
    TypesRun table method before [type] after := by
  induction type with
  | list inner ih | single inner ih | stream inner ih =>
      exact .wrapper before after after _ inner [] rfl (ih run) (.nil after)
  | record id => exact run
  | number | boolean | text | void | dateTime | binary => exact .scalar before after _ [] rfl rfl run

theorem types_run_of_records (table : RecordTable) (method : String) (before after : Registry)
    (types : List Descriptor)
    (run : TypesRun table method before ((types.flatMap Descriptor.records).map .record) after) :
    TypesRun table method before types after := by
  induction types generalizing before with
  | nil => exact run
  | cons type rest ih =>
      rw [List.flatMap_cons, List.map_append] at run
      obtain ⟨middle, head, later⟩ := types_run_split table method before after _ _ run
      exact types_run_append table method before middle after [type] rest
        (type_run_of_records table method before middle type head) (ih middle later)

-- The records of the fields stand in front of what is pending: splitting the
-- run there gives back the recursion.
theorem visit_run (table : RecordTable) (method : String) (registry : Registry) (pending : List RecordId) :
    TypesRun table method registry (pending.map .record) (registry.visit table method pending) := by
  induction registry, pending using visit.induct table method with
  | case1 registry =>
      rw [visit]
      exact .nil registry
  | case2 registry id rest missing ih =>
      have unnamed := (name_of_eq_none registry id).mp missing
      rw [visit_fresh table method registry id rest unnamed]
      rw [List.map_append] at ih
      obtain ⟨middle, fields, later⟩ := types_run_split table method _ _ _ _ ih
      refine .fresh registry middle _ id _ unnamed ?_ later
      apply types_run_of_records
      simpa only [fieldRecords, List.flatMap_map] using fields
  | case3 registry id rest present ih =>
      have named : id ∈ registry.defined :=
        Classical.byContradiction fun unnamed => present ((name_of_eq_none registry id).mpr unnamed)
      rw [visit_known table method registry id rest named]
      exact .known registry _ id _ named ih

theorem register_all_run (table : RecordTable) (method : String) (registry : Registry) (types : List Descriptor) :
    TypesRun table method registry types (types.foldl (register table method) registry) := by
  induction types generalizing registry with
  | nil => exact .nil registry
  | cons type rest ih =>
      have first : TypesRun table method registry [type] (registry.register table method type) :=
        type_run_of_records table method registry _ type (visit_run table method registry type.records)
      exact types_run_append table method registry _ _ [type] rest first (ih _)

theorem register_methods_run (table : RecordTable) (registry : Registry) (methods : List Method) :
    MethodsRun table registry methods (methods.foldl (fun registry method =>
      (typesOf method).foldl (register table method.name) registry) registry) := by
  induction methods generalizing registry with
  | nil => exact .nil registry
  | cons method rest ih =>
      exact .cons registry _ _ method rest (register_all_run table method.name registry (typesOf method)) (ih _)

end ClientPackager.Client.Registry
