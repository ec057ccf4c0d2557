import Mathlib.Data.List.TakeWhile
import ClientPackager.Contract.OfReflection

set_option autoImplicit false

namespace ClientPackager.Contract

-- The records with no record of the same name in front of them.
def firstRecords (records : List Reflection.Record) : List Reflection.Record :=
  (records.zipIdx.filter fun entry => (records.take entry.2).all (·.name ≠ entry.1.name)).map Prod.fst

def exported (doc : Reflection) : List Reflection.Method := doc.methods.filter (·.route.isSome)

-- One condition for each place of a document that can be wrong, in the order in
-- which they count.
inductive Condition where
  | routed
  | packaged
  | readable (expression : String)

def fieldConditions (record : Reflection.Record) : List Condition :=
  record.fields.map fun field => .readable field.type

def typeConditions (method : Reflection.Method) : List Condition :=
  (method.params.map fun param => .readable param.type) ++ [.readable method.returns]

def conditions (doc : Reflection) : List Condition :=
  [.routed] ++ [.packaged] ++ (firstRecords doc.records).flatMap fieldConditions ++
    (exported doc).flatMap typeConditions

-- The fault of a document that violates a condition.
def Condition.fault? (doc : Reflection) : Condition → Option Fault
  | .routed =>
    if doc.route.any (!Text.blank ·) then none
    else some (.invalidContract doc.typeName "missing class-level route")
  | .packaged =>
    match doc.npmPackage.map PackageName.parse with
    | some (.error defect) => some (.invalidContract doc.typeName defect.fault.message)
    | _ => none
  | .readable expression =>
    match TypeExpr.parse expression with
    | .ok _ => none
    | .error fault => some fault

theorem first_records_behind (front rest : List Reflection.Record) :
    ((rest.zipIdx front.length).filter fun entry =>
        ((front ++ rest).take entry.2).all (·.name ≠ entry.1.name)).map Prod.fst =
      (firstOfEachName rest).filter fun record => front.all (·.name ≠ record.name) := by
  induction rest generalizing front with
  | nil => rfl
  | cons record rest ih =>
      have shape : front ++ record :: rest = front ++ [record] ++ rest := by simp
      have later := ih (front ++ [record])
      rw [List.length_append, List.length_singleton, ← shape] at later
      have remaining : ((firstOfEachName rest).filter (·.name ≠ record.name)).filter
            (fun other => front.all (·.name ≠ other.name)) =
          (firstOfEachName rest).filter fun other => (front ++ [record]).all (·.name ≠ other.name) := by
        rw [List.filter_filter]
        apply List.filter_congr
        intro other _
        simp [eq_comm]
      rw [List.zipIdx_cons, List.filter_cons, firstOfEachName, List.filter_cons, remaining, ← later]
      simp only [List.take_left']
      split <;> simp

theorem first_of_each_name (records : List Reflection.Record) : firstOfEachName records = firstRecords records := by
  have behind := first_records_behind [] records
  have all : (firstOfEachName records).filter (fun _ => true) = firstOfEachName records :=
    List.filter_eq_self.mpr fun _ _ => rfl
  simp only [List.all_nil, all] at behind
  exact behind.symm

variable {α β : Type} (doc : Reflection)

-- An outcome is checked if it fails exactly with the fault of the first of some
-- conditions that is violated.
def Checked (outcome : Outcome α) (all : List Condition) : Prop :=
  ∀ fault, outcome = .error fault ↔ all.findSome? (Condition.fault? doc) = some fault

theorem checked_ok (value : α) : Checked doc (.ok value) [] := by
  intro fault
  simp

theorem checked_bind (first : Outcome α) (next : α → Outcome β) (before after : List Condition)
    (start : Checked doc first before) (rest : ∀ value, first = .ok value → Checked doc (next value) after) :
    Checked doc (first >>= next) (before ++ after) := by
  intro fault
  rw [List.findSome?_append]
  cases first with
  | error found =>
      rw [(start found).mp rfl]
      simp [bind, Except.bind]
  | ok value =>
      have clear : before.findSome? (Condition.fault? doc) = none := by
        cases search : before.findSome? (Condition.fault? doc) with
        | none => rfl
        | some found => cases (start found).mpr search
      rw [clear, Option.none_or]
      exact rest value rfl fault

theorem checked_return (first : Outcome α) (shape : α → β) (all : List Condition) (start : Checked doc first all) :
    Checked doc (first >>= fun value => .ok (shape value)) all := by
  rw [← List.append_nil all]
  exact checked_bind doc first _ all [] start fun value _ => checked_ok doc (shape value)

theorem checked_map_m (f : α → Outcome β) (each : α → List Condition) (values : List α)
    (step : ∀ value, Checked doc (f value) (each value)) : Checked doc (values.mapM f) (values.flatMap each) := by
  induction values with
  | nil => exact checked_ok doc []
  | cons value rest ih =>
      rw [List.mapM_cons, List.flatMap_cons]
      exact checked_bind doc _ _ _ _ (step value) fun first _ => checked_return doc _ (first :: ·) _ ih

theorem trim_empty (text : String) : Text.trim text = "" ↔ Text.blank text = true := by
  have front : ∀ c ∈ text.toList.takeWhile Text.isBlank, Text.isBlank c = true := fun _ => List.mem_takeWhile_imp
  have split : text.toList.takeWhile Text.isBlank ++ text.toList.dropWhile Text.isBlank = text.toList :=
    List.takeWhile_append_dropWhile
  have back : Text.trim text = "" ↔ ∀ c ∈ text.toList.dropWhile Text.isBlank, Text.isBlank c = true := by
    simp [Text.trim, Text.dropTrailingBlank, Text.skipBlank, List.dropWhile_eq_nil_iff]
  rw [back, Text.blank, List.all_eq_true]
  constructor
  · intro behind c member
    rw [← split, List.mem_append] at member
    exact member.elim (front c) (behind c)
  · exact fun all c member => all c ((List.dropWhile_sublist _).subset member)

theorem route_checked : Checked doc (routeOf doc) [.routed] := by
  intro fault
  cases given : doc.route with
  | none => simp [routeOf, Condition.fault?, given]
  | some route =>
      by_cases blank : Text.blank route = true
      · simp [routeOf, Condition.fault?, given, blank, (trim_empty route).mpr blank]
      · have shown : Text.trim route ≠ "" := fun empty => blank ((trim_empty route).mp empty)
        simp [routeOf, Condition.fault?, given, blank]

theorem package_checked : Checked doc (packageOf doc) [.packaged] := by
  intro fault
  cases given : doc.npmPackage with
  | none => simp [packageOf, Condition.fault?, given]
  | some text => cases read : PackageName.parse text <;> simp [packageOf, Condition.fault?, given, read]

theorem type_checked (resolver : Resolver) (expression : String) :
    Checked doc (resolver.resolveText expression) [.readable expression] := by
  intro fault
  cases read : TypeExpr.parse expression <;>
    simp [Resolver.resolveText, Condition.fault?, read, Except.map]

theorem records_checked : Checked doc (recordsOf doc) ((firstRecords doc.records).flatMap fieldConditions) := by
  rw [recordsOf, first_of_each_name]
  apply checked_return
  apply checked_map_m
  intro record
  apply checked_return
  have fields := checked_map_m doc (ofField (resolverOf doc)) (fun field => [.readable field.type]) record.fields
    fun field => checked_return doc _ _ _ (type_checked doc (resolverOf doc) field.type)
  rwa [← List.map_eq_flatMap] at fields

theorem method_checked (method : Reflection.Method) :
    Checked doc (ofMethod (resolverOf doc) method) (typeConditions method) := by
  have params := checked_map_m doc (ofParam (resolverOf doc)) (fun param => [.readable param.type]) method.params
    fun param => checked_return doc _ _ _ (type_checked doc (resolverOf doc) param.type)
  rw [← List.map_eq_flatMap] at params
  apply checked_bind doc _ _ _ _ params
  intro _ _
  exact checked_return doc _ _ _ (type_checked doc (resolverOf doc) method.returns)

theorem reflection_checked (order : MethodOrder) : Checked doc (ofReflection order doc) (conditions doc) := by
  simp only [ofReflection, conditions, List.append_assoc]
  apply checked_bind doc _ _ _ _ (route_checked doc)
  intro route _
  apply checked_bind doc _ _ _ _ (package_checked doc)
  intro package _
  apply checked_bind doc _ _ _ _ (records_checked doc)
  intro records _
  apply checked_return
  exact checked_map_m doc _ typeConditions (exported doc) (method_checked doc)

end ClientPackager.Contract
