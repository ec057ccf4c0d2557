import Mathlib.Data.List.Nodup
import ClientPackager.Proofs.Archive.Package
import ClientPackager.Proofs.Contract.Introspection

set_option autoImplicit false

namespace ClientPackager.Contract

theorem of_reflection_made (order : MethodOrder) (doc : Reflection) (contract : Contract) :
    ofReflection order doc = .ok contract ↔
      ∃ route package records methods, routeOf doc = .ok route ∧ packageOf doc = .ok package ∧
        recordsOf doc = .ok records ∧ methodsOf doc = .ok methods ∧
        contract = ⟨route, doc.typeName, package, order, arrange order methods, records⟩ := by
  simp only [ofReflection, bind_eq_ok]
  constructor
  · rintro ⟨route, routed, package, packaged, records, catalogued, methods, described, same⟩
    cases same
    exact ⟨route, package, records, methods, routed, packaged, catalogued, described, rfl⟩
  · rintro ⟨route, package, records, methods, routed, packaged, catalogued, described, rfl⟩
    exact ⟨route, routed, package, packaged, records, catalogued, methods, described, rfl⟩

theorem methods_named (doc : Reflection) (methods : List Method) (described : methodsOf doc = .ok methods) :
    methods.map Method.name = (exported doc).map Reflection.Method.name := by
  rw [methodsOf, map_m_eq_ok] at described
  change List.Forall₂ _ (exported doc) methods at described
  generalize exported doc = sources at described
  induction described with
  | nil => rfl
  | cons made _ ih =>
      have named := ((method_made_iff (resolverOf doc) _ _).mp made).name
      rw [List.map_cons, List.map_cons, named, ih]

-- Two methods that may stand in either order have one name, and there is only
-- one method of a name.
theorem arranged_of_perm (methods others : List Method) (permuted : others.Perm methods)
    (distinct : (methods.map Method.name).Nodup) : arrange .alphabetical others = arrange .alphabetical methods := by
  have sorted := (sorted_stably methods).ascending
  have othersSorted := (sorted_stably others).ascending
  have same : (arrange .alphabetical others).Perm (arrange .alphabetical methods) :=
    (List.mergeSort_perm others _).trans (permuted.trans (List.mergeSort_perm methods _).symm)
  refine same.eq_of_pairwise ?_ othersSorted sorted
  intro first second member listed below above
  have inMethods : first ∈ methods := permuted.mem_iff.mp (List.mem_mergeSort.mp member)
  exact List.inj_on_of_nodup_map distinct inMethods (List.mem_mergeSort.mp listed) (String.le_antisymm below above)

theorem alphabetical_of_perm (doc : Reflection) (methods : List Reflection.Method) (permuted : methods.Perm doc.methods)
    (distinct : ((exported doc).map Reflection.Method.name).Nodup) (contract : Contract)
    (made : ofReflection .alphabetical doc = .ok contract) :
    ofReflection .alphabetical { doc with methods } = .ok contract := by
  obtain ⟨route, package, records, described, routed, packaged, catalogued, each, rfl⟩ :=
    (of_reflection_made .alphabetical doc contract).mp made
  obtain ⟨others, otherwise, same⟩ := map_m_perm (ofMethod (resolverOf doc)) (exported doc)
    (methods.filter (·.route.isSome)) described (permuted.filter _) each
  have names : (described.map Method.name).Nodup := methods_named doc described each ▸ distinct
  refine (of_reflection_made .alphabetical _ _).mpr
    ⟨route, package, records, others, routed, packaged, catalogued, otherwise, ?_⟩
  rw [arranged_of_perm described others same names]

theorem alphabetical_sorts (doc : Reflection) (declared : Contract) (made : ofReflection .declaration doc = .ok declared) :
    ofReflection .alphabetical doc =
      .ok { declared with order := .alphabetical, methods := arrange .alphabetical declared.methods } := by
  obtain ⟨route, package, records, methods, routed, packaged, catalogued, described, rfl⟩ :=
    (of_reflection_made .declaration doc declared).mp made
  exact (of_reflection_made .alphabetical doc _).mpr
    ⟨route, package, records, methods, routed, packaged, catalogued, described, rfl⟩

theorem declared_of_sorted (doc : Reflection) (sorted : Contract) (made : ofReflection .alphabetical doc = .ok sorted) :
    ∃ declared, ofReflection .declaration doc = .ok declared := by
  obtain ⟨route, package, records, methods, routed, packaged, catalogued, described, _⟩ :=
    (of_reflection_made .alphabetical doc sorted).mp made
  exact ⟨_, (of_reflection_made .declaration doc _).mpr
    ⟨route, package, records, methods, routed, packaged, catalogued, described, rfl⟩⟩

theorem alphabetical_contracts (doc : Reflection) :
    (∀ methods : List Reflection.Method, methods.Perm doc.methods →
      ((exported doc).map Reflection.Method.name).Nodup →
      ((∃ contract, ofReflection .alphabetical doc = .ok contract) ↔
        ∃ contract, ofReflection .alphabetical { doc with methods } = .ok contract) ∧
      ∀ first second, ofReflection .alphabetical doc = .ok first →
        ofReflection .alphabetical { doc with methods } = .ok second →
        first = second ∧ ∀ spec, ∃ bundle,
          Bundle.generate first spec = .ok bundle ∧ Bundle.generate second spec = .ok bundle) ∧
    ((∃ contract, ofReflection .alphabetical doc = .ok contract) ↔
      ∃ contract, ofReflection .declaration doc = .ok contract) ∧
    (∀ declared, ofReflection .declaration doc = .ok declared → ∃ sorted, StablySorted declared.methods sorted ∧
      ofReflection .alphabetical doc = .ok { declared with order := .alphabetical, methods := sorted }) := by
  refine ⟨?_, ?_, ?_⟩
  · intro methods permuted distinct
    have onward := alphabetical_of_perm doc methods permuted distinct
    have names : ((exported { doc with methods }).map Reflection.Method.name).Nodup :=
      ((permuted.filter _).map _).nodup_iff.mpr distinct
    have back := alphabetical_of_perm { doc with methods } doc.methods permuted.symm names
    refine ⟨⟨fun ⟨contract, made⟩ => ⟨contract, onward contract made⟩,
      fun ⟨contract, made⟩ => ⟨contract, back contract made⟩⟩, ?_⟩
    intro first second made other
    have same : first = second := Except.ok.inj ((onward first made).symm.trans other)
    subst same
    refine ⟨rfl, fun spec => ?_⟩
    obtain ⟨bundle, generated, _⟩ := Bundle.generate_files first spec
    exact ⟨bundle, generated, generated⟩
  · exact ⟨fun ⟨contract, made⟩ => declared_of_sorted doc contract made,
      fun ⟨declared, made⟩ => ⟨_, alphabetical_sorts doc declared made⟩⟩
  · exact fun declared made => ⟨_, sorted_stably declared.methods, alphabetical_sorts doc declared made⟩

def clockMethod (name returns : String) : Reflection.Method := ⟨name, some .direct, false, none, false, [], returns⟩

def clockDocument (methods : List Reflection.Method) : Reflection :=
  ⟨"org.demo.ClockServiceImpl", some "org.demo.ClockService", none, methods, [⟨"org.demo.Time", []⟩]⟩

theorem clock_methods_in_any_order : ∃ contract,
    ofReflection .alphabetical (clockDocument [clockMethod "tick" "Flux<Time>", clockMethod "now" "Time"]) =
      .ok contract ∧
    ofReflection .alphabetical (clockDocument [clockMethod "now" "Time", clockMethod "tick" "Flux<Time>"]) =
      .ok contract := by
  obtain ⟨both, equal⟩ :=
    (alphabetical_contracts (clockDocument [clockMethod "tick" "Flux<Time>", clockMethod "now" "Time"])).1
      [clockMethod "now" "Time", clockMethod "tick" "Flux<Time>"] (.swap _ _ _) (by decide)
  have first : ∃ contract, ofReflection .alphabetical
      (clockDocument [clockMethod "tick" "Flux<Time>", clockMethod "now" "Time"]) = .ok contract := ⟨_, rfl⟩
  obtain ⟨contract, made⟩ := first
  obtain ⟨other, otherwise⟩ := both.mp ⟨contract, made⟩
  exact ⟨contract, made, (equal contract other made otherwise).1 ▸ otherwise⟩

end ClientPackager.Contract
