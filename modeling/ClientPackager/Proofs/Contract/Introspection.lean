import ClientPackager.Proofs.Contract.Conditions
import ClientPackager.Proofs.Outcome

set_option autoImplicit false

namespace ClientPackager.Contract

def Parses (expression : String) : Prop := ∃ expr, TypeExpr.parse expression = .ok expr

-- What a document has to satisfy; nothing else of it is looked at.
structure Sound (doc : Reflection) : Prop where
  routed : ∃ route, doc.route = some route ∧ ∃ c ∈ route.toList, Text.isBlank c = false
  packaged : ∀ text, doc.npmPackage = some text → ∃ name, PackageName.parse text = .ok name
  fields : ∀ record ∈ firstRecords doc.records, ∀ field ∈ record.fields, Parses field.type
  methods : ∀ method ∈ exported doc, (∀ param ∈ method.params, Parses param.type) ∧ Parses method.returns

def OfType (resolver : Resolver) (text : String) (type : Descriptor) : Prop :=
  ∃ expr, TypeExpr.parse text = .ok expr ∧ type = resolver.resolve expr

structure OfField (resolver : Resolver) (source : Reflection.Field) (field : Field) : Prop where
  name : field.name = source.name
  type : OfType resolver source.type field.type

structure OfRecord (resolver : Resolver) (source : Reflection.Record) (record : Record) : Prop where
  id : record.id = ⟨source.name⟩
  fields : List.Forall₂ (OfField resolver) source.fields record.fields

structure OfParam (resolver : Resolver) (source : Reflection.Param) (param : Param) : Prop where
  name : param.name = source.name
  type : OfType resolver source.type param.type
  required : param.required = source.required
  defaultValue : param.defaultValue = source.defaultValue
  typedef : param.typedef = source.typedef

structure OfMethod (resolver : Resolver) (source : Reflection.Method) (method : Method) : Prop where
  name : method.name = source.name
  params : List.Forall₂ (OfParam resolver) source.params method.params
  result : OfType resolver source.returns method.result
  deprecated : method.deprecated = source.deprecated
  description : method.description = source.description.filter fun text => !Text.blank text
  resultNullable : method.resultNullable = source.resultNullable
  classified : ⟨method.mode, method.singleResultChannel⟩ =
    Classification.ofTypes (method.params.map Param.type) method.result
  payload : method.payload = method.result.inner.inner

-- Methods of one name keep the order they have without sorting.
structure StablySorted (before after : List Method) : Prop where
  ascending : after.Pairwise fun first second => first.name ≤ second.name
  stable : ∀ name, after.filter (·.name = name) = before.filter (·.name = name)

def Arranged (order : MethodOrder) (before after : List Method) : Prop :=
  match order with
  | .declaration => after = before
  | .alphabetical => StablySorted before after

structure Describes (order : MethodOrder) (doc : Reflection) (contract : Contract) : Prop where
  route : ∃ text, doc.route = some text ∧ Text.blank text = false ∧ contract.route = ⟨Text.trim text⟩
  typeName : contract.typeName = doc.typeName
  unpackaged : doc.npmPackage = none → contract.npmPackage = none
  packaged : ∀ text, doc.npmPackage = some text →
    ∃ name, PackageName.parse text = .ok name ∧ contract.npmPackage = some name
  ordered : contract.order = order
  records : List.Forall₂ (OfRecord (resolverOf doc)) (firstRecords doc.records) contract.records.records
  methods : ∃ described, List.Forall₂ (OfMethod (resolverOf doc)) (exported doc) described ∧
    Arranged order described contract.methods

theorem clear_routed (doc : Reflection) : Condition.fault? doc .routed = none ↔
    ∃ route, doc.route = some route ∧ ∃ c ∈ route.toList, Text.isBlank c = false := by
  cases given : doc.route with
  | none => simp [Condition.fault?, given]
  | some route => simp [Condition.fault?, given, Text.blank]

theorem clear_packaged (doc : Reflection) : Condition.fault? doc .packaged = none ↔
    ∀ text, doc.npmPackage = some text → ∃ name, PackageName.parse text = .ok name := by
  cases given : doc.npmPackage with
  | none => simp [Condition.fault?, given]
  | some text => cases read : PackageName.parse text <;> simp [Condition.fault?, given, read]

theorem clear_readable (doc : Reflection) (expression : String) :
    Condition.fault? doc (.readable expression) = none ↔ Parses expression := by
  cases read : TypeExpr.parse expression <;> simp [Condition.fault?, Parses, read]

theorem conditions_clear (doc : Reflection) :
    (conditions doc).findSome? (Condition.fault? doc) = none ↔ Sound doc := by
  have fields : (∀ condition ∈ (firstRecords doc.records).flatMap fieldConditions, condition.fault? doc = none) ↔
      ∀ record ∈ firstRecords doc.records, ∀ field ∈ record.fields, Parses field.type := by
    simp only [List.forall_mem_flatMap, fieldConditions, List.forall_mem_map, clear_readable]
  have methods : (∀ condition ∈ (exported doc).flatMap typeConditions, condition.fault? doc = none) ↔
      ∀ method ∈ exported doc, (∀ param ∈ method.params, Parses param.type) ∧ Parses method.returns := by
    simp only [List.forall_mem_flatMap, typeConditions, List.forall_mem_append, List.forall_mem_map,
      List.forall_mem_singleton, clear_readable]
  rw [List.findSome?_eq_none_iff]
  simp only [conditions, List.forall_mem_append, List.forall_mem_singleton, fields, methods, clear_routed,
    clear_packaged]
  constructor
  · rintro ⟨⟨⟨routed, packaged⟩, fields⟩, methods⟩
    exact ⟨routed, packaged, fields, methods⟩
  · rintro ⟨routed, packaged, fields, methods⟩
    exact ⟨⟨⟨routed, packaged⟩, fields⟩, methods⟩

theorem reflection_succeeds (order : MethodOrder) (doc : Reflection) :
    (∃ contract, ofReflection order doc = .ok contract) ↔ Sound doc := by
  rw [← conditions_clear]
  have checked := reflection_checked doc order
  cases outcome : ofReflection order doc with
  | error fault => simp [(checked fault).mp outcome]
  | ok contract =>
      cases search : (conditions doc).findSome? (Condition.fault? doc) with
      | none => simp
      | some fault =>
          rw [(checked fault).mpr search] at outcome
          cases outcome

theorem resolves_iff (resolver : Resolver) (text : String) (type : Descriptor) :
    resolver.resolveText text = .ok type ↔ OfType resolver text type := by
  cases read : TypeExpr.parse text <;> simp [Resolver.resolveText, OfType, read, Except.map, eq_comm]

theorem field_made_iff (resolver : Resolver) (source : Reflection.Field) (field : Field) :
    ofField resolver source = .ok field ↔ OfField resolver source field := by
  rw [ofField, bind_eq_ok]
  constructor
  · rintro ⟨type, resolved, same⟩
    cases same
    exact ⟨rfl, (resolves_iff resolver source.type type).mp resolved⟩
  · rintro ⟨name, type⟩
    refine ⟨field.type, (resolves_iff resolver source.type field.type).mpr type, ?_⟩
    rw [← name]
    rfl

theorem record_made_iff (resolver : Resolver) (source : Reflection.Record) (record : Record) :
    ofRecord resolver source = .ok record ↔ OfRecord resolver source record := by
  simp only [ofRecord, bind_eq_ok, map_m_eq_ok, field_made_iff]
  constructor
  · rintro ⟨fields, each, same⟩
    cases same
    exact ⟨rfl, each⟩
  · rintro ⟨id, fields⟩
    refine ⟨record.fields, fields, ?_⟩
    rw [← id]
    rfl

theorem param_made_iff (resolver : Resolver) (source : Reflection.Param) (param : Param) :
    ofParam resolver source = .ok param ↔ OfParam resolver source param := by
  rw [ofParam, bind_eq_ok]
  constructor
  · rintro ⟨type, resolved, same⟩
    cases same
    exact ⟨rfl, (resolves_iff resolver source.type type).mp resolved, rfl, rfl, rfl⟩
  · rintro ⟨name, type, required, defaultValue, typedef⟩
    refine ⟨param.type, (resolves_iff resolver source.type param.type).mpr type, ?_⟩
    rw [← name, ← required, ← defaultValue, ← typedef]
    rfl

theorem method_made_iff (resolver : Resolver) (source : Reflection.Method) (method : Method) :
    ofMethod resolver source = .ok method ↔ OfMethod resolver source method := by
  simp only [ofMethod, bind_eq_ok, map_m_eq_ok, param_made_iff, resolves_iff]
  constructor
  · rintro ⟨params, each, result, resolved, same⟩
    cases same
    exact ⟨rfl, each, resolved, rfl, rfl, rfl, rfl, rfl⟩
  · rintro ⟨name, params, result, deprecated, description, resultNullable, classified, payload⟩
    refine ⟨method.params, params, method.result, result, ?_⟩
    rw [← classified, ← name, ← deprecated, ← description, ← resultNullable]
    exact congrArg (fun payload => Except.ok { method with payload := payload }) payload.symm

theorem name_le_trans (first second third : Method) (front : decide (first.name ≤ second.name) = true)
    (back : decide (second.name ≤ third.name) = true) : decide (first.name ≤ third.name) = true := by
  simp only [decide_eq_true_eq] at front back ⊢
  exact String.le_trans front back

theorem name_le_total (first second : Method) :
    (decide (first.name ≤ second.name) || decide (second.name ≤ first.name)) = true := by
  simpa using String.le_total first.name second.name

-- Methods of one name are in order already, so sorting keeps them as they are.
theorem sorted_stably (methods : List Method) :
    StablySorted methods (methods.mergeSort fun first second => first.name ≤ second.name) := by
  constructor
  · simpa using List.pairwise_mergeSort name_le_trans name_le_total methods
  · intro name
    have alike : (methods.filter (·.name = name)).Pairwise fun first second => decide (first.name ≤ second.name) := by
      refine List.pairwise_of_forall_mem_list fun first member second other => ?_
      simp only [List.mem_filter, decide_eq_true_eq] at member other
      simp [member.2, other.2]
    have kept := (List.sublist_mergeSort name_le_trans name_le_total alike List.filter_sublist).filter (·.name = name)
    have size := ((List.mergeSort_perm methods fun first second => first.name ≤ second.name).filter
      (·.name = name)).length_eq
    simp only [List.filter_filter, Bool.and_self] at kept
    exact (kept.eq_of_length size.symm).symm

theorem mem_of_alike (first second : List Method)
    (alike : ∀ name, first.filter (·.name = name) = second.filter (·.name = name)) (method : Method)
    (member : method ∈ first) : method ∈ second := by
  have found : method ∈ first.filter (·.name = method.name) := List.mem_filter.mpr ⟨member, by simp⟩
  exact (List.mem_filter.mp (alike method.name ▸ found)).1

-- The least name stands first in both lists, and the methods of that name are
-- the same in both.
theorem ascending_unique (first second : List Method) (left : first.Pairwise fun a b => a.name ≤ b.name)
    (right : second.Pairwise fun a b => a.name ≤ b.name)
    (alike : ∀ name, first.filter (·.name = name) = second.filter (·.name = name)) : first = second := by
  induction first generalizing second with
  | nil =>
      cases second with
      | nil => rfl
      | cons method rest =>
          have member := mem_of_alike _ _ (fun name => (alike name).symm) method List.mem_cons_self
          cases member
  | cons method rest ih =>
      cases second with
      | nil => cases mem_of_alike _ _ alike method List.mem_cons_self
      | cons other later =>
          have above : method.name ≤ other.name := by
            have member := mem_of_alike _ _ (fun name => (alike name).symm) other List.mem_cons_self
            rcases List.mem_cons.mp member with rfl | inside
            · exact String.le_refl _
            · exact List.rel_of_pairwise_cons left inside
          have below : other.name ≤ method.name := by
            rcases List.mem_cons.mp (mem_of_alike _ _ alike method List.mem_cons_self) with rfl | inside
            · exact String.le_refl _
            · exact List.rel_of_pairwise_cons right inside
          have same : other.name = method.name := String.le_antisymm below above
          have heads := alike method.name
          simp only [List.filter_cons, same, decide_true, if_true, List.cons.injEq] at heads
          obtain ⟨rfl, _⟩ := heads
          congr 1
          apply ih later left.of_cons right.of_cons
          intro name
          have tails := alike name
          simp only [List.filter_cons] at tails
          split at tails
          · exact (List.cons.inj tails).2
          · exact tails

theorem arranged_iff (order : MethodOrder) (before after : List Method) :
    arrange order before = after ↔ Arranged order before after := by
  cases order with
  | declaration => exact eq_comm
  | alphabetical =>
      have sorted := sorted_stably before
      constructor
      · rintro rfl
        exact sorted
      · intro other
        exact ascending_unique _ after sorted.ascending other.ascending fun name =>
          (sorted.stable name).trans (other.stable name).symm

theorem route_made_iff (doc : Reflection) (route : Route) : routeOf doc = .ok route ↔
    ∃ text, doc.route = some text ∧ Text.blank text = false ∧ route = ⟨Text.trim text⟩ := by
  cases given : doc.route with
  | none => simp [routeOf, given]
  | some text =>
      by_cases blank : Text.blank text = true
      · simp [routeOf, given, blank, (trim_empty text).mpr blank]
      · have shown : Text.trim text ≠ "" := fun empty => blank ((trim_empty text).mp empty)
        have made : routeOf doc = .ok ⟨Text.trim text⟩ := by simp [routeOf, given]
        simp only [made, Except.ok.injEq, Option.some.injEq, blank, true_and, exists_eq_left']
        exact eq_comm

theorem package_made_iff (doc : Reflection) (package : Option PackageName) : packageOf doc = .ok package ↔
    (doc.npmPackage = none → package = none) ∧
    ∀ text, doc.npmPackage = some text → ∃ name, PackageName.parse text = .ok name ∧ package = some name := by
  cases given : doc.npmPackage with
  | none =>
      simp only [packageOf, given, Except.ok.injEq, forall_const, reduceCtorEq, false_implies, and_true]
      exact eq_comm
  | some text =>
      cases read : PackageName.parse text with
      | error defect => simp [packageOf, given, read]
      | ok name =>
          simp only [packageOf, given, read, Except.ok.injEq, Option.some.injEq, forall_eq', exists_eq_left', reduceCtorEq,
            false_implies, true_and]
          exact eq_comm

theorem reflection_described (order : MethodOrder) (doc : Reflection) (contract : Contract) :
    ofReflection order doc = .ok contract ↔ Describes order doc contract := by
  simp only [ofReflection, recordsOf, methodsOf, bind_eq_ok, map_m_eq_ok, route_made_iff, package_made_iff,
    record_made_iff, method_made_iff, first_of_each_name]
  constructor
  · rintro ⟨route, routed, package, packaged, table, ⟨records, described, inTable⟩, methods, each, same⟩
    cases same
    cases inTable
    exact ⟨routed, rfl, packaged.1, packaged.2, rfl, described, methods, each, (arranged_iff order methods _).mp rfl⟩
  · rintro ⟨route, typeName, unpackaged, packaged, ordered, records, described, each, methods⟩
    refine ⟨contract.route, route, contract.npmPackage, ⟨unpackaged, packaged⟩, contract.records,
      ⟨contract.records.records, records, rfl⟩, described, each, ?_⟩
    rw [← typeName, ← ordered, (arranged_iff contract.order described contract.methods).mpr (ordered ▸ methods)]
    rfl

end ClientPackager.Contract
