import ClientPackager.Proofs.Catalog.Offers
import ClientPackager.Proofs.Text.Pieces

set_option autoImplicit false

namespace ClientPackager

-- A short name is the end of a route behind its last dot.
def Route.EndsIn (route : Route) (short : String) : Prop :=
  '.' ∉ short.toList ∧ (route.text = short ∨ ∃ front, route.text = front ++ "." ++ short)

theorem Route.ends_in_iff (route : Route) (short : String) : route.EndsIn short ↔ route.shortName = short := by
  have joined : (∃ front, route.text = front ++ "." ++ short) ↔
      ∃ front, route.text.toList = front ++ '.' :: short.toList := by
    constructor
    · rintro ⟨front, shape⟩
      exact ⟨front.toList, by simp [shape]⟩
    · rintro ⟨front, shape⟩
      exact ⟨String.ofList front, String.toList_inj.mp (by simp [shape])⟩
  rw [EndsIn, joined, shortName, Text.after_last_iff]

namespace Catalog

theorem named_iff (contract : Contract) (short : String) :
    contract.route.EndsIn short ↔ contract.shortName = short := contract.route.ends_in_iff short

def routes (catalog : Catalog) : List Route := catalog.toList.map Contract.route

section Step

variable (catalog : Catalog) (contract : Contract) (short : String)

theorem routes_replaced (known : contract.route ∈ catalog.routes) :
    (catalog.insert contract).routes = catalog.routes := by
  rw [routes, insert, toList, Keyed.insert, Keyed.map_replaceOrAppend]
  exact if_pos known

theorem new_route_behind (new : contract.route ∉ catalog.routes) :
    (catalog.insert contract).toList = catalog.toList ++ [contract] :=
  Keyed.append_new Contract.route contract catalog.toList new

-- Which route answers is a matter of the routes alone.
theorem answering_route : (catalog.findByShortName? short).map Contract.route =
    catalog.routes.find? fun route => route.shortName = short := by
  rw [routes, List.find?_map, findByShortName?]
  unfold Contract.shortName
  rfl

theorem replaced_answers_alike (known : contract.route ∈ catalog.routes) :
    ((catalog.insert contract).findByShortName? short).map Contract.route =
      (catalog.findByShortName? short).map Contract.route := by
  rw [answering_route, answering_route, routes_replaced catalog contract known]

theorem new_answers_rest (new : contract.route ∉ catalog.routes) : (catalog.insert contract).findByShortName? short =
    (catalog.findByShortName? short).or (if contract.shortName = short then some contract else none) := by
  rw [findByShortName?, new_route_behind catalog contract new, List.find?_append]
  by_cases same : contract.shortName = short <;> simp [findByShortName?, same]

theorem answer_changed (new : contract.route ∉ catalog.routes)
    (changed : (catalog.insert contract).findByShortName? short ≠ catalog.findByShortName? short) :
    catalog.findByShortName? short = none ∧ contract.route.EndsIn short ∧
      (catalog.insert contract).findByShortName? short = some contract := by
  rw [new_answers_rest catalog contract short new] at changed ⊢
  cases answer : catalog.findByShortName? short with
  | some other => simp [answer] at changed
  | none =>
      by_cases same : contract.shortName = short
      · exact ⟨rfl, (named_iff contract short).mpr same, by simp [same]⟩
      · simp [answer, same] at changed

theorem answer_route_kept (known : catalog.findByShortName? short ≠ none) :
    ((catalog.insert contract).findByShortName? short).map Contract.route =
      (catalog.findByShortName? short).map Contract.route := by
  by_cases listed : contract.route ∈ catalog.routes
  · exact replaced_answers_alike catalog contract short listed
  · by_contra changed
    exact known (answer_changed catalog contract short listed fun same => changed (by rw [same])).1

end Step

-- Once a short name has an answer, its route stays whatever comes later.
theorem answering_route_stays (later : List Contract) (catalog : Catalog) (short : String)
    (known : catalog.findByShortName? short ≠ none) :
    ((later.foldl insert catalog).findByShortName? short).map Contract.route =
      (catalog.findByShortName? short).map Contract.route := by
  induction later generalizing catalog with
  | nil => rfl
  | cons contract rest ih =>
      have kept := answer_route_kept catalog contract short known
      have still : (catalog.insert contract).findByShortName? short ≠ none := fun none => by
        rw [none, Option.map_none] at kept
        exact known (Option.map_eq_none_iff.mp kept.symm)
      rw [List.foldl_cons, ih (catalog.insert contract) still, kept]

-- What a catalog has of the contracts that came, and what it answers.
structure Remembers (catalog : Catalog) (contracts : List Contract) : Prop where
  distinct : catalog.routes.Nodup
  order : catalog.routes = (contracts.map Contract.route).eraseDups
  latest : ∀ contract ∈ catalog.toList, ∃ earlier later, contracts = earlier ++ contract :: later ∧
    ∀ other ∈ later, other.route ≠ contract.route
  answered : ∀ short contract, catalog.findByShortName? short = some contract ↔
    ∃ front back, catalog.toList = front ++ contract :: back ∧ contract.route.EndsIn short ∧
      ∀ other ∈ front, ¬ other.route.EndsIn short
  unanswered : ∀ short, catalog.findByShortName? short = none ↔
    ∀ contract ∈ catalog.toList, ¬ contract.route.EndsIn short

theorem of_list_remembers (contracts : List Contract) : Remembers (ofList contracts) contracts where
  distinct := (ofList contracts).contracts.distinct
  order := by
    rw [routes, toList, of_list_contracts, Keyed.keys_all]
  latest contract listed := by
    have found := (ofList contracts).contracts.find_listed contract listed
    rw [of_list_contracts, Keyed.find_all] at found
    exact (Keyed.last_split Contract.route contracts _ contract (by simpa [Keyed.find?, Keyed.empty] using found)).2
  answered short contract := by
    rw [findByShortName?, List.find?_eq_some_iff_append]
    simp only [named_iff, decide_eq_true_eq, Bool.not_eq_true', decide_eq_false_iff_not]
    constructor
    · rintro ⟨named, front, back, split, before⟩
      exact ⟨front, back, split, named, before⟩
    · rintro ⟨front, back, split, named, before⟩
      exact ⟨named, front, back, split, before⟩
  unanswered short := by
    rw [findByShortName?, List.find?_eq_none]
    simp only [named_iff, decide_eq_true_eq]

-- A contract that comes again leaves every answer to its route, and a new route
-- answers only where nothing did before.
theorem catalog_remembers_insertions (contracts : List Contract) :
    Remembers (ofList contracts) contracts ∧
    (∀ contract, contract.route ∈ contracts.map Contract.route → ∀ short,
      (((ofList contracts).insert contract).findByShortName? short).map Contract.route =
        ((ofList contracts).findByShortName? short).map Contract.route) ∧
    (∀ contract, contract.route ∉ contracts.map Contract.route → ∀ short,
      ((ofList contracts).insert contract).findByShortName? short ≠ (ofList contracts).findByShortName? short →
      (ofList contracts).findByShortName? short = none ∧ contract.route.EndsIn short ∧
        ((ofList contracts).insert contract).findByShortName? short = some contract) ∧
    ∀ later short, (ofList contracts).findByShortName? short ≠ none →
      ((ofList (contracts ++ later)).findByShortName? short).map Contract.route =
        ((ofList contracts).findByShortName? short).map Contract.route := by
  have remembers := of_list_remembers contracts
  have known (route : Route) : route ∈ (ofList contracts).routes ↔ route ∈ contracts.map Contract.route := by
    rw [remembers.order, List.mem_eraseDups]
  refine ⟨remembers, fun contract listed short => ?_, fun contract new short changed => ?_, fun later short answer => ?_⟩
  · exact replaced_answers_alike _ contract short ((known _).mpr listed)
  · exact answer_changed _ contract short (fun listed => new ((known _).mp listed)) changed
  · rw [ofList, List.foldl_append]
    exact answering_route_stays later (ofList contracts) short answer

end Catalog
end ClientPackager
