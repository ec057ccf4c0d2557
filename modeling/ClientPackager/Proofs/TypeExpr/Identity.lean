import ClientPackager.Proofs.TypeExpr.Resolving

set_option autoImplicit false

namespace ClientPackager.Resolver

open TypeExpr (parse)

theorem known_record_unless_byte_array (resolver : Resolver) (expr : TypeExpr)
    (known : ⟨expr.name⟩ ∈ resolver.records) :
    (resolver.resolve expr = arrayOf (.record ⟨expr.name⟩) expr.dims ↔ ¬ ByteArray expr) ∧
      (ByteArray expr → resolver.resolve expr = arrayOf .binary (expr.dims - 1)) := by
  refine ⟨⟨fun kept bytes => ?_, fun other => ?_⟩, resolver.resolve_byte_array expr⟩
  · have lost := congrArg Descriptor.records (kept.symm.trans (resolver.resolve_byte_array expr bytes))
    rw [array_of_records, array_of_records] at lost
    exact absurd lost (by simp [Descriptor.records])
  · rw [resolver.resolve_else expr other, resolver.named_known expr.name _ known]

def dateClass : Resolver := ⟨[⟨"org.demo.Date"⟩]⟩

theorem date_class_kept_in_arrays : ⟨"org.demo.Date"⟩ ∈ dateClass.records ∧
    ¬ ByteArray ⟨"org.demo.Date", [TypeExpr.anything], 2⟩ ∧
    dateClass.resolve ⟨"org.demo.Date", [TypeExpr.anything], 2⟩ = .list (.list (.record ⟨"org.demo.Date"⟩)) := by
  have known : ⟨"org.demo.Date"⟩ ∈ dateClass.records := List.mem_singleton.mpr rfl
  have other : ¬ ByteArray ⟨"org.demo.Date", [TypeExpr.anything], 2⟩ := fun bytes => by simpa using bytes.2.1
  exact ⟨known, other, (known_record_unless_byte_array dateClass _ known).1.mpr other⟩

-- A class of its own, told from a byte in front of brackets by nothing but its
-- qualified name.
def byteClass : Resolver := ⟨[⟨"org.demo.Byte"⟩]⟩

theorem byte_class_lost_in_array :
    parse "org.demo.Byte[]" = .ok ⟨"org.demo.Byte", [], 1⟩ ∧
      ⟨"org.demo.Byte"⟩ ∈ byteClass.records ∧
      byteClass.resolve ⟨"org.demo.Byte", [], 1⟩ = .binary ∧
      byteClass.resolve ⟨"List", [⟨"org.demo.Byte", [], 0⟩], 0⟩ = .list (.record ⟨"org.demo.Byte"⟩) ∧
      ¬ ∀ (resolver : Resolver) (expr : TypeExpr), (∃ text, parse text = .ok expr) →
        ⟨expr.name⟩ ∈ resolver.records → resolver.resolve expr = arrayOf (.record ⟨expr.name⟩) expr.dims := by
  have read : parse "org.demo.Byte[]" = .ok ⟨"org.demo.Byte", [], 1⟩ := rfl
  have binary : byteClass.resolve ⟨"org.demo.Byte", [], 1⟩ = .binary := by decide +kernel
  refine ⟨read, List.mem_singleton.mpr rfl, binary, by decide +kernel, fun wins => ?_⟩
  have kept := wins byteClass ⟨"org.demo.Byte", [], 1⟩ ⟨_, read⟩ (List.mem_singleton.mpr rfl)
  exact absurd (binary.symm.trans kept) (by simp [arrayOf])

-- An identity for which its own text stands.
def Canonical (resolver : Resolver) (id : RecordId) : Prop := resolver.resolve ⟨id.text, [], 0⟩ = .record id

-- A built-in name that wraps its argument, and no record has it.
def Generic (resolver : Resolver) (name : String) : Prop :=
  ⟨name⟩ ∉ resolver.records ∧ ∃ kind, Builtin.ofName? (TypeExpr.simpleNameOf name) = some kind ∧ kind.isGeneric = true

-- Only first arguments are resolved, and the innermost one that is a generic
-- has none.
inductive EndsRaw (resolver : Resolver) : TypeExpr → Prop where
  | here (name : String) (dims : Nat) (generic : resolver.Generic name) : EndsRaw resolver ⟨name, [], dims⟩
  | inside (name : String) (first : TypeExpr) (rest : List TypeExpr) (dims : Nat) (generic : resolver.Generic name)
      (raw : EndsRaw resolver first) : EndsRaw resolver ⟨name, first :: rest, dims⟩

theorem byte_names_plain : ∀ name ∈ byteNames, (Builtin.ofName? name).map Builtin.isGeneric = some false := by
  decide +kernel

theorem generic_no_byte_array (resolver : Resolver) (name : String) (args : List TypeExpr) (dims : Nat)
    (generic : resolver.Generic name) : ¬ ByteArray ⟨name, args, dims⟩ := by
  rintro ⟨_, _, byte⟩
  obtain ⟨_, kind, builtin, wraps⟩ := generic
  have plain := byte_names_plain (TypeExpr.simpleNameOf name) byte
  rw [builtin, Option.map_some, wraps] at plain
  exact absurd plain (by decide)

theorem generic_resolved (resolver : Resolver) (name : String) (args : List TypeExpr) (dims : Nat)
    (generic : resolver.Generic name) :
    (resolver.resolve ⟨name, args, dims⟩).records = (resolver.argumentOf args).records := by
  obtain ⟨unknown, kind, builtin, wraps⟩ := id generic
  rw [resolver.resolved_records _ (resolver.generic_no_byte_array name args dims generic),
    resolver.named_builtin name _ kind unknown builtin, Builtin.generic_records _ kind wraps]

theorem raw_records (resolver : Resolver) (expr : TypeExpr) (raw : resolver.EndsRaw expr) :
    (resolver.resolve expr).records = [missing] := by
  induction raw with
  | here name dims generic => exact resolver.generic_resolved name [] dims generic
  | inside name first rest dims generic _ ih => exact (resolver.generic_resolved name _ dims generic).trans ih

theorem canonical_known (resolver : Resolver) (id : RecordId) (known : id ∈ resolver.records) :
    resolver.Canonical id := by
  rw [Canonical, resolve_name]
  exact resolver.named_known id.text _ known

theorem canonical_record_of (resolver : Resolver) (name : String) (unknown : ⟨name⟩ ∉ resolver.records)
    (other : Builtin.ofName? (TypeExpr.simpleNameOf name) = none) : resolver.Canonical (resolver.recordOf name) := by
  rcases resolver.record_of_cases name with known | ⟨own, _⟩
  · exact resolver.canonical_known _ known
  · rw [own, Canonical, resolve_name, resolver.named_else name _ unknown other, own]

theorem canonical_of_not_raw (resolver : Resolver) (expr : TypeExpr) (applied : ¬ resolver.EndsRaw expr) :
    ∀ id ∈ (resolver.resolve expr).records, resolver.Canonical id := by
  obtain ⟨name, args, dims⟩ := expr
  by_cases bytes : ByteArray ⟨name, args, dims⟩
  · rw [resolver.resolve_byte_array _ bytes, array_of_records]
    simp [Descriptor.records]
  rw [resolver.resolved_records _ bytes]
  by_cases known : ⟨name⟩ ∈ resolver.records
  · rw [resolver.named_known name _ known]
    exact List.forall_mem_singleton.mpr (resolver.canonical_known ⟨name⟩ known)
  cases builtin : Builtin.ofName? (TypeExpr.simpleNameOf name) with
  | none =>
      rw [resolver.named_else name _ known builtin]
      exact List.forall_mem_singleton.mpr (resolver.canonical_record_of name known builtin)
  | some kind =>
      cases wraps : kind.isGeneric with
      | false =>
          rw [resolver.named_builtin name _ kind known builtin, Builtin.plain_records _ kind builtin wraps]
          exact List.forall_mem_nil _
      | true =>
          have generic : resolver.Generic name := ⟨known, kind, builtin, wraps⟩
          rw [resolver.named_builtin name _ kind known builtin, Builtin.generic_records _ kind wraps]
          cases args with
          | nil => exact absurd (.here name dims generic) applied
          | cons first rest =>
              exact resolver.canonical_of_not_raw first fun raw => applied (.inside name first rest dims generic raw)

theorem missing_resolved (resolver : Resolver) (unknown : missing ∉ resolver.records) :
    resolver.resolve ⟨missing.text, [], 0⟩ = .record (resolver.recordOf missing.text) := by
  have unnamed : Builtin.ofName? (TypeExpr.simpleNameOf missing.text) = none := by decide +kernel
  rw [resolve_name, resolver.named_else missing.text _ unknown unnamed]

theorem missing_canonical_iff (resolver : Resolver) : resolver.Canonical missing ↔
    missing ∈ resolver.records ∨ ∀ record ∈ resolver.records, record.simpleName ≠ "Object" := by
  have simple : TypeExpr.simpleNameOf missing.text = "Object" := by decide +kernel
  constructor
  · intro canonical
    by_cases known : missing ∈ resolver.records
    · exact .inl known
    rw [Canonical, resolver.missing_resolved known] at canonical
    rcases resolver.record_of_cases missing.text with member | ⟨_, fresh⟩
    · exact .inl (Descriptor.record.inj canonical ▸ member)
    · exact .inr (simple ▸ fresh)
  · rintro (known | fresh)
    · exact resolver.canonical_known missing known
    · by_cases known : missing ∈ resolver.records
      · exact resolver.canonical_known missing known
      have own := resolver.record_of_fresh missing.text (simple ▸ fresh)
      rw [Canonical, resolver.missing_resolved known, own]

-- A wildcard without a bound is looked up, a missing argument is not.
theorem raw_as_wildcard_iff (resolver : Resolver) (name : String) (dims : Nat) (generic : resolver.Generic name) :
    resolver.resolve ⟨name, [], dims⟩ = resolver.resolve ⟨name, [TypeExpr.anything], dims⟩ ↔
      resolver.Canonical missing := by
  constructor
  · intro same
    have records := congrArg Descriptor.records same
    rw [resolver.generic_resolved name _ dims generic, resolver.generic_resolved name _ dims generic] at records
    have alike : [missing] = (resolver.resolve ⟨missing.text, [], 0⟩).records := records
    by_cases known : missing ∈ resolver.records
    · exact resolver.canonical_known missing known
    rw [resolver.missing_resolved known, Descriptor.records] at alike
    have own : resolver.recordOf missing.text = missing := (List.singleton_inj.mp alike).symm
    exact (resolver.missing_resolved known).trans (congrArg Descriptor.record own)
  · intro canonical
    have alike : resolver.argumentOf [] = resolver.argumentOf [TypeExpr.anything] := Eq.symm canonical
    rw [resolver.resolve_else _ (resolver.generic_no_byte_array name _ dims generic),
      resolver.resolve_else _ (resolver.generic_no_byte_array name _ dims generic), alike]

theorem identities_canonical_unless_raw (resolver : Resolver) :
    (∀ expr, (∀ id ∈ (resolver.resolve expr).records, resolver.Canonical id) ↔
      (resolver.EndsRaw expr → resolver.Canonical missing)) ∧
    (∀ name dims, resolver.Generic name →
      (resolver.resolve ⟨name, [], dims⟩ = resolver.resolve ⟨name, [TypeExpr.anything], dims⟩ ↔
        resolver.Canonical missing)) ∧
    (resolver.Canonical missing ↔
      missing ∈ resolver.records ∨ ∀ record ∈ resolver.records, record.simpleName ≠ "Object") := by
  refine ⟨fun expr => ⟨fun canonical raw => ?_, fun default => ?_⟩, resolver.raw_as_wildcard_iff,
    resolver.missing_canonical_iff⟩
  · exact canonical missing (by simp [resolver.raw_records expr raw])
  · by_cases raw : resolver.EndsRaw expr
    · simpa [resolver.raw_records expr raw] using default raw
    · exact resolver.canonical_of_not_raw expr raw

def objectClass : Resolver := ⟨[⟨"org.demo.Object"⟩]⟩

theorem raw_list_apart_from_wildcard : objectClass.Generic "List" ∧ objectClass.EndsRaw ⟨"List", [], 0⟩ ∧
    ¬ objectClass.Canonical missing ∧
    objectClass.resolve ⟨"List", [], 0⟩ ≠ objectClass.resolve ⟨"List", [TypeExpr.anything], 0⟩ := by
  have generic : objectClass.Generic "List" := ⟨by decide +kernel, .collection, by decide +kernel, rfl⟩
  obtain ⟨_, wildcard, known⟩ := identities_canonical_unless_raw objectClass
  have moved : ¬ objectClass.Canonical missing := fun canonical => absurd (known.mp canonical) (by decide +kernel)
  exact ⟨generic, .here "List" 0 generic, moved, fun same => moved ((wildcard "List" 0 generic).mp same)⟩

theorem raw_list_under_second_identity :
    objectClass.resolveText "List" = .ok (.list (.record ⟨"java.lang.Object"⟩)) ∧
      objectClass.resolveText "java.lang.Object" = .ok (.record ⟨"org.demo.Object"⟩) ∧
      objectClass.resolveText "List<?>" = .ok (.list (.record ⟨"org.demo.Object"⟩)) ∧
      ¬ ∀ resolver : Resolver, ∀ expr, ∀ id ∈ (resolver.resolve expr).records, resolver.Canonical id := by
  have raw : parse "List" = .ok ⟨"List", [], 0⟩ := rfl
  have bare : parse "java.lang.Object" = .ok TypeExpr.anything := rfl
  have wildcard : parse "List<?>" = .ok ⟨"List", [TypeExpr.anything], 0⟩ := rfl
  have list : objectClass.resolve ⟨"List", [], 0⟩ = .list (.record ⟨"java.lang.Object"⟩) := by decide +kernel
  have moved : objectClass.resolve TypeExpr.anything = .record ⟨"org.demo.Object"⟩ := by decide +kernel
  have known : objectClass.resolve ⟨"List", [TypeExpr.anything], 0⟩ = .list (.record ⟨"org.demo.Object"⟩) := by
    decide +kernel
  refine ⟨list ▸ objectClass.resolve_text_ok _ _ raw, moved ▸ objectClass.resolve_text_ok _ _ bare,
    known ▸ objectClass.resolve_text_ok _ _ wildcard, fun canonical => ?_⟩
  have fixed := canonical objectClass ⟨"List", [], 0⟩ missing (by simp [list, Descriptor.records, missing, TypeExpr.anything])
  exact absurd (fixed.symm.trans moved) (by decide)

end ClientPackager.Resolver
