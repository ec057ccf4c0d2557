import ClientPackager.TypeExpr.Resolve

set_option autoImplicit false

namespace ClientPackager.Builtin

def isGeneric : Builtin → Bool
  | .plain _ => false
  | _ => true

theorem named_listed (simple : String) (kind : Builtin) (named : ofName? simple = some kind) :
    ∃ names, (kind, names) ∈ table ∧ simple ∈ names := by
  obtain ⟨⟨_, names⟩, found, rfl⟩ := Option.map_eq_some_iff.mp named
  exact ⟨names, List.mem_of_find?_eq_some found, by simpa using List.find?_some found⟩

theorem table_plain : ∀ entry ∈ table, entry.1.isGeneric = false →
    ∀ simple argument, (entry.1.apply simple argument).records = [] := by
  simp [table, isGeneric, apply, Descriptor.records]

theorem plain_records (simple : String) (kind : Builtin) (named : ofName? simple = some kind)
    (plain : kind.isGeneric = false) (argument : Descriptor) : (kind.apply simple argument).records = [] := by
  obtain ⟨names, listed, _⟩ := named_listed simple kind named
  exact table_plain (kind, names) listed plain simple argument

-- Bytes are no records, so a list that is read as binary loses none.
theorem generic_records (simple : String) (kind : Builtin) (generic : kind.isGeneric = true) (argument : Descriptor) :
    (kind.apply simple argument).records = argument.records := by
  cases kind with
  | plain type => simp [isGeneric] at generic
  | collection =>
      by_cases bytes : argument = .number .byte ∧ simple = "Vec"
      · rw [apply, if_pos bytes, bytes.1]
        rfl
      · rw [apply, if_neg bytes]
        rfl
  | optional => rfl
  | single => rfl
  | stream => rfl

end ClientPackager.Builtin

namespace ClientPackager.Resolver

-- What is read where an argument is missing.
def missing : RecordId := ⟨TypeExpr.anything.name⟩

def argumentOf (resolver : Resolver) : List TypeExpr → Descriptor
  | [] => .record missing
  | first :: _ => resolver.resolve first

-- The record that a name without a meaning of its own stands for.
def recordOf (resolver : Resolver) (name : String) : RecordId :=
  (resolver.records.find? (·.simpleName == TypeExpr.simpleNameOf name)).getD ⟨name⟩

def byteNames : List String := ["byte", "Byte", "u8"]

def ByteArray (expr : TypeExpr) : Prop := 0 < expr.dims ∧ expr.args = [] ∧ expr.simpleName ∈ byteNames

theorem byte_element_iff (name : String) (args : List TypeExpr) :
    isByteElement ⟨name, args, 0⟩ = true ↔ args = [] ∧ TypeExpr.simpleNameOf name ∈ byteNames := by
  simp only [isByteElement, TypeExpr.simpleName, byteNames, Bool.and_eq_true, List.isEmpty_iff, List.contains_iff_mem]

theorem resolve_array (resolver : Resolver) (name : String) (args : List TypeExpr) (outer : Nat) :
    resolver.resolve ⟨name, args, outer + 1⟩ =
      if isByteElement ⟨name, args, 0⟩ then arrayOf .binary outer
      else arrayOf (resolver.named name (resolver.argumentOf args)) (outer + 1) := by
  cases args <;> simp only [resolve, argumentOf, missing]

theorem resolve_byte_array (resolver : Resolver) (expr : TypeExpr) (bytes : ByteArray expr) :
    resolver.resolve expr = arrayOf .binary (expr.dims - 1) := by
  obtain ⟨name, args, dims⟩ := expr
  obtain ⟨some, element⟩ := bytes
  obtain ⟨outer, rfl⟩ : ∃ outer, dims = outer + 1 := Nat.exists_eq_succ_of_ne_zero (Nat.ne_of_gt some)
  rw [resolve_array]
  exact if_pos ((byte_element_iff name args).mpr element)

theorem resolve_else (resolver : Resolver) (expr : TypeExpr) (other : ¬ ByteArray expr) :
    resolver.resolve expr = arrayOf (resolver.named expr.name (resolver.argumentOf expr.args)) expr.dims := by
  obtain ⟨name, args, dims⟩ := expr
  cases dims with
  | zero => cases args <;> simp only [resolve, argumentOf, missing, arrayOf]
  | succ outer =>
      have element : ¬ isByteElement ⟨name, args, 0⟩ = true := fun byte =>
        other ⟨Nat.succ_pos outer, (byte_element_iff name args).mp byte⟩
      rw [resolve_array]
      exact if_neg element

theorem resolve_name (resolver : Resolver) (name : String) (args : List TypeExpr) :
    resolver.resolve ⟨name, args, 0⟩ = resolver.named name (resolver.argumentOf args) :=
  resolver.resolve_else ⟨name, args, 0⟩ fun bytes => absurd bytes.1 (Nat.lt_irrefl 0)

-- The three stages of the look-up.
theorem named_known (resolver : Resolver) (name : String) (argument : Descriptor) (known : ⟨name⟩ ∈ resolver.records) :
    resolver.named name argument = .record ⟨name⟩ :=
  if_pos known

theorem named_builtin (resolver : Resolver) (name : String) (argument : Descriptor) (kind : Builtin)
    (unknown : ⟨name⟩ ∉ resolver.records) (builtin : Builtin.ofName? (TypeExpr.simpleNameOf name) = some kind) :
    resolver.named name argument = kind.apply (TypeExpr.simpleNameOf name) argument := by
  simp only [named, if_neg unknown, builtin]

theorem named_else (resolver : Resolver) (name : String) (argument : Descriptor) (unknown : ⟨name⟩ ∉ resolver.records)
    (other : Builtin.ofName? (TypeExpr.simpleNameOf name) = none) :
    resolver.named name argument = .record (resolver.recordOf name) := by
  simp only [named, if_neg unknown, other, recordOf]

theorem array_of_records (element : Descriptor) (dims : Nat) : (arrayOf element dims).records = element.records := by
  induction dims with
  | zero => rfl
  | succ dims ih => exact ih

theorem resolved_records (resolver : Resolver) (expr : TypeExpr) (other : ¬ ByteArray expr) :
    (resolver.resolve expr).records = (resolver.named expr.name (resolver.argumentOf expr.args)).records := by
  rw [resolver.resolve_else expr other, array_of_records]

theorem record_of_fresh (resolver : Resolver) (name : String)
    (fresh : ∀ record ∈ resolver.records, record.simpleName ≠ TypeExpr.simpleNameOf name) :
    resolver.recordOf name = ⟨name⟩ := by
  have none : resolver.records.find? (·.simpleName == TypeExpr.simpleNameOf name) = none := by
    simpa [List.find?_eq_none] using fresh
  rw [recordOf, none]
  rfl

theorem record_of_cases (resolver : Resolver) (name : String) :
    resolver.recordOf name ∈ resolver.records ∨
      (resolver.recordOf name = ⟨name⟩ ∧ ∀ record ∈ resolver.records, record.simpleName ≠ TypeExpr.simpleNameOf name) := by
  cases found : resolver.records.find? (·.simpleName == TypeExpr.simpleNameOf name) with
  | none =>
      have fresh : ∀ record ∈ resolver.records, record.simpleName ≠ TypeExpr.simpleNameOf name := by
        simpa [List.find?_eq_none] using found
      exact .inr ⟨resolver.record_of_fresh name fresh, fresh⟩
  | some record =>
      left
      rw [recordOf, found]
      exact List.mem_of_find?_eq_some found

theorem resolve_text_ok (resolver : Resolver) (text : String) (expr : TypeExpr)
    (read : TypeExpr.parse text = .ok expr) : resolver.resolveText text = .ok (resolver.resolve expr) := by
  rw [resolveText, read, Except.map]

end ClientPackager.Resolver
