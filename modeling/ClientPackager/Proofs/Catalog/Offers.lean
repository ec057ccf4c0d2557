import ClientPackager.Catalog.Directory
import ClientPackager.Proofs.Contract.Introspection
import ClientPackager.Proofs.Keyed.Insertions

set_option autoImplicit false

namespace ClientPackager.Catalog

-- The route of a service without the blanks around it; a blank one is none.
def routeIn? (doc : Reflection) : Option Route :=
  (doc.route.filter (!Text.blank ·)).map fun text => ⟨Text.trim text⟩

-- A package is advertised under a name that no package can have.
def misnamed (doc : Reflection) : Bool :=
  match doc.npmPackage.map PackageName.parse with
  | some (.error _) => true
  | _ => false

-- The route under which a document is taken into a catalog.
def offered? (doc : Reflection) : Option Route := if misnamed doc then none else routeIn? doc

def contract? (order : MethodOrder) (doc : Reflection) : Option Contract := (Contract.ofReflection order doc).toOption

section Document

variable (order : MethodOrder) (doc : Reflection)

theorem contract_offered (contract : Contract) (made : Contract.ofReflection order doc = .ok contract) :
    offered? doc = some contract.route := by
  have described := (Contract.reflection_described order doc contract).mp made
  obtain ⟨text, given, filled, route⟩ := described.route
  have named : misnamed doc = false := by
    cases advertised : doc.npmPackage with
    | none => simp [misnamed, advertised]
    | some name =>
        obtain ⟨package, parsed, _⟩ := described.packaged name advertised
        simp [misnamed, advertised, parsed]
  simp [offered?, named, routeIn?, given, filled, route]

theorem unrouted_fault : (Contract.Condition.fault? doc .routed = none ↔ routeIn? doc ≠ none) ∧
    ∀ fault, Contract.Condition.fault? doc .routed = some fault → fault.isInvalidContract = true := by
  cases given : doc.route with
  | none => simp [Contract.Condition.fault?, routeIn?, given, Fault.isInvalidContract]
  | some text =>
      cases blank : Text.blank text <;>
        simp [Contract.Condition.fault?, routeIn?, given, blank, Fault.isInvalidContract]

theorem misnamed_fault : (Contract.Condition.fault? doc .packaged = none ↔ misnamed doc = false) ∧
    ∀ fault, Contract.Condition.fault? doc .packaged = some fault → fault.isInvalidContract = true := by
  cases advertised : doc.npmPackage with
  | none => simp [Contract.Condition.fault?, misnamed, advertised]
  | some text =>
      cases parsed : PackageName.parse text <;>
        simp [Contract.Condition.fault?, misnamed, advertised, parsed, Fault.isInvalidContract]

theorem unreadable_fault (expression : String) (fault : Fault)
    (found : Contract.Condition.fault? doc (.readable expression) = some fault) : fault.isInvalidContract = false := by
  rw [Contract.Condition.fault?, TypeExpr.parse] at found
  cases read : TypeExpr.read expression with
  | ok expr => simp [read, Except.mapError] at found
  | error defect =>
      simp only [read, Except.mapError, Option.some.injEq] at found
      rw [← found]
      rfl

-- Of the faults that end the reading of a document those of an invalid contract
-- are the ones of its route and of its name.
theorem invalid_unoffered (fault : Fault) (refused : Contract.ofReflection order doc = .error fault) :
    fault.isInvalidContract = true ↔ offered? doc = none := by
  have first := (Contract.reflection_checked doc order fault).mp refused
  obtain ⟨routed, unrouted⟩ := unrouted_fault doc
  obtain ⟨named, unnamed⟩ := misnamed_fault doc
  rw [Contract.conditions, List.append_assoc, List.append_assoc, List.singleton_append, List.findSome?_cons] at first
  cases route : Contract.Condition.fault? doc .routed with
  | some found =>
      rw [route] at first
      have absent : routeIn? doc = none := by
        by_contra present
        rw [routed.mpr present] at route
        cases route
      simp [← Option.some.inj first, unrouted found route, offered?, absent]
  | none =>
      rw [route, List.singleton_append, List.findSome?_cons] at first
      cases name : Contract.Condition.fault? doc .packaged with
      | some found =>
          rw [name] at first
          have wrong : misnamed doc = true := by
            by_contra fits
            rw [named.mpr (Bool.eq_false_iff.mpr fits)] at name
            cases name
          simp [← Option.some.inj first, unnamed found name, offered?, wrong]
      | none =>
          rw [name] at first
          have valid : fault.isInvalidContract = false := by
            obtain ⟨condition, listed, found⟩ := List.exists_of_findSome?_eq_some first
            obtain ⟨expression, rfl⟩ : ∃ expression, condition = .readable expression := by
              simp only [List.mem_append, List.mem_flatMap, Contract.fieldConditions, Contract.typeConditions,
                List.mem_map, List.mem_singleton] at listed
              rcases listed with ⟨_, _, field, _, rfl⟩ | ⟨method, _, ⟨param, _, rfl⟩ | rfl⟩
              · exact ⟨field.type, rfl⟩
              · exact ⟨param.type, rfl⟩
              · exact ⟨method.returns, rfl⟩
            exact unreadable_fault doc expression fault found
          simp [valid, offered?, named.mp name, routed.mp route]

-- What a document that can be read comes to is a contract for the route that it
-- offers, if it offers one.
def Legible : Prop := (contract? order doc).map Contract.route = offered? doc

theorem collect_ok (catalog next : Catalog) : collect order catalog doc = .ok next ↔
    Legible order doc ∧ next = (contract? order doc).elim catalog catalog.insert := by
  rw [Legible, contract?, collect]
  cases made : Contract.ofReflection order doc with
  | ok contract =>
      simp only [Except.toOption, Option.map_some, contract_offered order doc contract made, Option.elim_some, true_and,
        Except.ok.injEq]
      exact eq_comm
  | error fault =>
      have decided := invalid_unoffered order doc fault made
      by_cases invalid : fault.isInvalidContract = true
      · simp only [Except.toOption, Option.map_none, decided.mp invalid, Option.elim_none, true_and, if_pos invalid,
          Except.ok.injEq]
        exact eq_comm
      · have offered : none ≠ offered? doc := fun none => invalid (decided.mpr none.symm)
        simp [Except.toOption, offered, invalid]

end Document

section Documents

variable (order : MethodOrder) (docs : List Reflection)

theorem collect_all_ok (catalog next : Catalog) : docs.foldlM (collect order) catalog = .ok next ↔
    (∀ doc ∈ docs, Legible order doc) ∧ next = (docs.filterMap (contract? order)).foldl insert catalog := by
  induction docs generalizing catalog with
  | nil =>
      simp only [List.foldlM_nil, pure, Except.pure, Except.ok.injEq, List.not_mem_nil, false_implies, implies_true,
        List.filterMap_nil, List.foldl_nil, true_and]
      exact eq_comm
  | cons doc rest ih =>
      simp only [List.foldlM_cons, bind_eq_ok, collect_ok, ih, List.forall_mem_cons, List.filterMap_cons]
      constructor
      · rintro ⟨_, ⟨legible, rfl⟩, others, rfl⟩
        refine ⟨⟨legible, others⟩, ?_⟩
        cases contract? order doc <;> rfl
      · rintro ⟨⟨legible, others⟩, rfl⟩
        refine ⟨_, ⟨legible, rfl⟩, others, ?_⟩
        cases contract? order doc <;> rfl

theorem of_list_contracts (contracts : List Contract) :
    (ofList contracts).contracts = Keyed.empty.insertAll contracts := by
  induction contracts using List.reverseRecOn with
  | nil => rfl
  | append_singleton contracts contract ih =>
      rw [ofList, List.foldl_concat, ← ofList, Keyed.insert_all_snoc, ← ih]
      rfl

variable (legible : ∀ doc ∈ docs, Legible order doc)

include legible

theorem last_offered (route : Route) : Keyed.last? Contract.route (docs.filterMap (contract? order)) route =
    (docs.filter fun doc => offered? doc = some route).getLast?.bind (contract? order) := by
  induction docs using List.reverseRecOn with
  | nil => rfl
  | append_singleton docs doc ih =>
      rw [List.forall_mem_append, List.forall_mem_singleton] at legible
      obtain ⟨others, here⟩ := legible
      rw [Legible] at here
      rw [List.filterMap_append, List.filter_append, List.filter_singleton, ← here]
      cases made : contract? order doc with
      | none => simpa [made] using ih others
      | some contract =>
          rw [List.filterMap_cons_some made, List.filterMap_nil, Keyed.last_snoc]
          by_cases same : contract.route = route
          · simp [same, made]
          · simpa [same] using ih others

-- What a catalog has of the documents it was made of.
structure Holds (catalog : Catalog) : Prop where
  taken : ∀ doc ∈ docs, offered? doc ≠ none ↔ ∃ contract, Contract.ofReflection order doc = .ok contract
  routes : catalog.toList.map Contract.route = (docs.filterMap offered?).eraseDups
  found : ∀ route, catalog.contracts.find? route =
    (docs.filter fun doc => offered? doc = some route).getLast?.bind (contract? order)

theorem documents_held : Holds order docs (ofList (docs.filterMap (contract? order))) where
  taken doc listed := by
    rw [← legible doc listed, contract?]
    cases Contract.ofReflection order doc <;> simp [Except.toOption]
  routes := by
    rw [toList, of_list_contracts, Keyed.keys_all, List.map_filterMap, List.filterMap_congr legible]
  found route := by
    rw [of_list_contracts, Keyed.find_all, last_offered order docs legible]
    exact Option.or_none

end Documents

-- No service is lost: the last document with a route gives the contract for it, and
-- what is passed over has no route.
structure Complete (order : MethodOrder) (docs : List Reflection) (catalog : Catalog) : Prop where
  represented : ∀ doc ∈ docs, ∀ route, routeIn? doc = some route → ∃ last contract,
    (docs.filter fun other => routeIn? other = some route).getLast? = some last ∧
      Contract.ofReflection order last = .ok contract ∧ catalog.contracts.find? route = some contract
  skipped : ∀ doc ∈ docs, (∀ contract, Contract.ofReflection order doc ≠ .ok contract) → routeIn? doc = none

theorem complete_iff_named (order : MethodOrder) (docs : List Reflection) (catalog : Catalog)
    (holds : Holds order docs catalog) :
    Complete order docs catalog ↔ ∀ doc ∈ docs, misnamed doc = true → routeIn? doc = none := by
  constructor
  · intro complete doc listed wrong
    refine complete.skipped doc listed fun contract made => ?_
    exact (holds.taken doc listed).mpr ⟨contract, made⟩ (by rw [offered?, if_pos wrong])
  · intro named
    have offered : ∀ doc ∈ docs, offered? doc = routeIn? doc := by
      intro doc listed
      by_cases wrong : misnamed doc = true
      · rw [offered?, if_pos wrong, named doc listed wrong]
      · rw [offered?, if_neg wrong]
    refine ⟨fun doc listed route routed => ?_, fun doc listed unmade => ?_⟩
    · have present : (docs.filter fun other => routeIn? other = some route) ≠ [] :=
        List.ne_nil_of_mem (List.mem_filter.mpr ⟨listed, by simpa using routed⟩)
      obtain ⟨front, last, shape⟩ := (List.eq_nil_or_concat _).resolve_left present
      rw [List.concat_eq_append] at shape
      obtain ⟨member, same⟩ := List.mem_filter.mp (shape ▸ List.mem_append_right front List.mem_cons_self : last ∈ _)
      have both : (docs.filter fun other => offered? other = some route) =
          docs.filter fun other => routeIn? other = some route :=
        List.filter_congr fun other also => by rw [offered other also]
      obtain ⟨contract, made⟩ := (holds.taken last member).mp (by rw [offered last member]; simp_all)
      refine ⟨last, contract, by simp [shape], made, ?_⟩
      rw [holds.found, both, shape]
      simp [contract?, made, Except.toOption]
    · rw [← offered doc listed]
      by_contra taken
      obtain ⟨contract, made⟩ := (holds.taken doc listed).mp taken
      exact unmade contract made

end ClientPackager.Catalog
