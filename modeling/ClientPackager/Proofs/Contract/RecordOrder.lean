import ClientPackager.Proofs.Contract.MethodOrder
import ClientPackager.Proofs.Lookup
import ClientPackager.Proofs.Registry.Table
import ClientPackager.TypeExpr.Resolve

set_option autoImplicit false

namespace ClientPackager.Resolver

variable (resolver other : Resolver) (permuted : other.records.Perm resolver.records)
  (distinct : (resolver.records.map RecordId.simpleName).Nodup)

include permuted distinct

-- A name is looked up as an identity and then as a simple name. No two records
-- answer to either.
theorem named_of_perm (name : String) (argument : Descriptor) :
    other.named name argument = resolver.named name argument := by
  have known : (⟨name⟩ : RecordId) ∈ other.records ↔ ⟨name⟩ ∈ resolver.records := permuted.mem_iff
  have found := find_by_key_of_perm RecordId.simpleName resolver.records other.records permuted distinct
    (TypeExpr.simpleNameOf name)
  simp only [named, known, found]

-- Only the first argument of a type is ever resolved.
theorem resolve_of_perm (expr : TypeExpr) : other.resolve expr = resolver.resolve expr := by
  have named := named_of_perm resolver other permuted distinct
  obtain ⟨name, args, dims⟩ := expr
  cases args with
  | nil => cases dims <;> simp only [resolve, named]
  | cons first rest =>
      have argument := resolve_of_perm first
      cases dims <;> simp only [resolve, named, argument]

theorem resolve_text_of_perm (text : String) : other.resolveText text = resolver.resolveText text := by
  simp only [resolveText, funext (resolve_of_perm resolver other permuted distinct)]

end ClientPackager.Resolver

namespace ClientPackager.Contract

theorem first_of_distinct (records : List Reflection.Record) (distinct : (records.map Reflection.Record.name).Nodup) :
    firstOfEachName records = records := by
  induction records with
  | nil => rfl
  | cons record rest ih =>
      rw [List.map_cons, List.nodup_cons] at distinct
      rw [firstOfEachName, ih distinct.2, List.filter_eq_self.mpr]
      intro other member
      have different : other.name ≠ record.name := fun same => distinct.1 (same ▸ List.mem_map_of_mem member)
      simpa using different

theorem records_named (resolver : Resolver) (sources : List Reflection.Record) (records : List Record)
    (made : sources.mapM (ofRecord resolver) = .ok records) :
    (records.map Record.id).map RecordId.text = sources.map Reflection.Record.name := by
  rw [map_m_eq_ok] at made
  induction made with
  | nil => rfl
  | cons first _ ih =>
      have identity := ((record_made_iff resolver _ _).mp first).id
      rw [List.map_cons, List.map_cons, List.map_cons, identity, ih]

def simpleNames (records : List Reflection.Record) : List String :=
  records.map fun record => TypeExpr.simpleNameOf record.name

theorem names_of_simple_names (records : List Reflection.Record) (distinct : (simpleNames records).Nodup) :
    (records.map Reflection.Record.name).Nodup := by
  have composed : simpleNames records = (records.map Reflection.Record.name).map TypeExpr.simpleNameOf := by
    rw [List.map_map]
    rfl
  exact List.Nodup.of_map _ (composed ▸ distinct)

-- Whatever a resolver makes of texts is all that a contract takes from it.
theorem method_of_types (resolver other : Resolver) (types : other.resolveText = resolver.resolveText) :
    ofMethod other = ofMethod resolver := by
  have param : ofParam other = ofParam resolver := by
    funext param
    simp only [ofParam, types]
  funext method
  simp only [ofMethod, param, types]

theorem record_of_types (resolver other : Resolver) (types : other.resolveText = resolver.resolveText) :
    ofRecord other = ofRecord resolver := by
  have field : ofField other = ofField resolver := by
    funext field
    simp only [ofField, types]
  funext record
  simp only [ofRecord, field]

section Permuted

variable (doc : Reflection) (records : List Reflection.Record) (permuted : records.Perm doc.records)
  (distinct : (simpleNames doc.records).Nodup)

include permuted distinct

theorem types_of_perm : (resolverOf { doc with records }).resolveText = (resolverOf doc).resolveText := by
  have identities : ((resolverOf doc).records.map RecordId.simpleName).Nodup := by
    simp only [resolverOf, List.map_map]
    exact distinct
  funext text
  exact Resolver.resolve_text_of_perm (resolverOf doc) (resolverOf { doc with records }) (permuted.map _) identities text

theorem methods_of_perm : methodsOf { doc with records } = methodsOf doc := by
  have types := types_of_perm doc records permuted distinct
  simp only [methodsOf, method_of_types (resolverOf doc) _ types]

theorem records_of_perm (table : RecordTable) (made : recordsOf doc = .ok table) :
    ∃ other, recordsOf { doc with records } = .ok other ∧ ∀ id, other.fieldsOf id = table.fieldsOf id := by
  have names := names_of_simple_names doc.records distinct
  have otherNames := (permuted.map Reflection.Record.name).nodup_iff.mpr names
  have record := record_of_types (resolverOf doc) _ (types_of_perm doc records permuted distinct)
  rw [recordsOf, first_of_distinct doc.records names, bind_eq_ok] at made
  obtain ⟨listed, each, same⟩ := made
  cases same
  obtain ⟨others, otherwise, reordered⟩ := map_m_perm (ofRecord (resolverOf doc)) doc.records records listed permuted each
  have identities : (listed.map Record.id).Nodup := List.Nodup.of_map _ (records_named _ _ _ each ▸ names)
  refine ⟨⟨others⟩, ?_, fun id => ?_⟩
  · rw [recordsOf, first_of_distinct records otherNames, record, otherwise]
    rfl
  · simp only [RecordTable.fieldsOf, RecordTable.get?, find_by_key_of_perm Record.id listed others reordered identities]

theorem reflection_of_perm (order : MethodOrder) (contract : Contract) (made : ofReflection order doc = .ok contract) :
    ∃ table, (∀ id, table.fieldsOf id = contract.records.fieldsOf id) ∧
      ofReflection order { doc with records } = .ok { contract with records := table } := by
  obtain ⟨route, package, table, methods, routed, packaged, catalogued, described, rfl⟩ :=
    (of_reflection_made order doc contract).mp made
  obtain ⟨other, otherwise, alike⟩ := records_of_perm doc records permuted distinct table catalogued
  refine ⟨other, alike, (of_reflection_made order _ _).mpr
    ⟨route, package, other, methods, routed, packaged, otherwise, ?_, rfl⟩⟩
  rw [methods_of_perm doc records permuted distinct, described]

theorem record_order_immaterial (order : MethodOrder) :
    ((∃ contract, ofReflection order doc = .ok contract) ↔
      ∃ contract, ofReflection order { doc with records } = .ok contract) ∧
    ∀ first second, ofReflection order doc = .ok first → ofReflection order { doc with records } = .ok second →
      ∀ spec, ∃ bundle, Bundle.generate first spec = .ok bundle ∧ Bundle.generate second spec = .ok bundle := by
  have onward := reflection_of_perm doc records permuted distinct order
  have names : (simpleNames records).Nodup := (permuted.map _).nodup_iff.mpr distinct
  have back := reflection_of_perm { doc with records } doc.records permuted.symm names order
  refine ⟨⟨fun ⟨contract, made⟩ => ?_, fun ⟨contract, made⟩ => ?_⟩, ?_⟩
  · obtain ⟨table, _, otherwise⟩ := onward contract made
    exact ⟨_, otherwise⟩
  · obtain ⟨table, _, otherwise⟩ := back contract made
    exact ⟨_, otherwise⟩
  · intro first second made other spec
    obtain ⟨table, alike, otherwise⟩ := onward first made
    have same : { first with records := table } = second := Except.ok.inj (otherwise.symm.trans other)
    obtain ⟨bundle, generated, _⟩ := Bundle.generate_files first spec
    refine ⟨bundle, generated, ?_⟩
    rw [← same, package_of_fields first table alike spec, generated]

end Permuted

def calendarDocument (records : List Reflection.Record) : Reflection :=
  ⟨"org.demo.CalendarImpl", some "org.demo.Calendar", none, [clockMethod "next" "Mono<Day>"], records⟩

def dayRecord : Reflection.Record := ⟨"org.demo.Day", [⟨"hours", "List<Hour>"⟩, ⟨"next", "Day"⟩]⟩

def hourRecord : Reflection.Record := ⟨"org.demo.Hour", [⟨"day", "org.demo.Day"⟩]⟩

def calendarPackage : PackageSpec := .ofName ⟨"@demo/Calendar", by decide, by decide⟩ ⟨"1.0.0"⟩

theorem calendar_records_in_any_order : ∃ first second bundle,
    ofReflection .declaration (calendarDocument [dayRecord, hourRecord]) = .ok first ∧
    ofReflection .declaration (calendarDocument [hourRecord, dayRecord]) = .ok second ∧
    Bundle.generate first calendarPackage = .ok bundle ∧ Bundle.generate second calendarPackage = .ok bundle := by
  obtain ⟨both, equal⟩ := record_order_immaterial (calendarDocument [dayRecord, hourRecord])
    [hourRecord, dayRecord] (.swap _ _ _) (by decide) .declaration
  have made : ∃ contract, ofReflection .declaration (calendarDocument [dayRecord, hourRecord]) = .ok contract :=
    ⟨_, rfl⟩
  obtain ⟨first, made⟩ := made
  obtain ⟨second, otherwise⟩ := both.mp ⟨first, made⟩
  obtain ⟨bundle, generated, alsoGenerated⟩ := equal first second made otherwise calendarPackage
  exact ⟨first, second, bundle, made, otherwise, generated, alsoGenerated⟩

end ClientPackager.Contract
