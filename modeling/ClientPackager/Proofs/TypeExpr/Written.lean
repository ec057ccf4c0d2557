import ClientPackager.Proofs.TypeExpr.Display
import ClientPackager.Proofs.TypeExpr.Resolving

set_option autoImplicit false

namespace ClientPackager.Descriptor

open TypeExpr (IsWord WellFormed parse)

def numberWord : NumberKind → String
  | .byte => "byte"
  | .short => "short"
  | .int => "int"
  | .long => "long"
  | .float => "float"
  | .double => "double"
  | .decimal => "BigDecimal"

-- One way to write each type down, with a record under its identity.
def spell : Descriptor → String
  | number kind => numberWord kind
  | boolean => "boolean"
  | text => "String"
  | void => "void"
  | dateTime => "Date"
  | binary => "byte[]"
  | list element => "List<" ++ element.spell ++ ">"
  | single value => "Mono<" ++ value.spell ++ ">"
  | stream element => "Flux<" ++ element.spell ++ ">"
  | record id => id.text

def spellingNames : List String :=
  ["byte", "short", "int", "long", "float", "double", "BigDecimal", "boolean", "String", "void", "Date", "List", "Mono",
    "Flux"]

def expression : Descriptor → TypeExpr
  | number kind => ⟨numberWord kind, [], 0⟩
  | boolean => ⟨"boolean", [], 0⟩
  | text => ⟨"String", [], 0⟩
  | void => ⟨"void", [], 0⟩
  | dateTime => ⟨"Date", [], 0⟩
  | binary => ⟨"byte", [], 1⟩
  | list element => ⟨"List", [element.expression], 0⟩
  | single value => ⟨"Mono", [value.expression], 0⟩
  | stream element => ⟨"Flux", [element.expression], 0⟩
  | record id => ⟨id.text, [], 0⟩

theorem display_name (name : String) : TypeExpr.display ⟨name, [], 0⟩ = name := by
  simp [TypeExpr.display]

theorem display_generic (name : String) (arg : TypeExpr) :
    TypeExpr.display ⟨name, [arg], 0⟩ = name ++ "<" ++ TypeExpr.display arg ++ ">" := by
  simp [TypeExpr.display, TypeExpr.displayArgs, String.append_assoc]

theorem display_expression (type : Descriptor) : TypeExpr.display type.expression = type.spell := by
  induction type with
  | number | boolean | text | void | dateTime => exact display_name _
  | binary => rfl
  | list element ih | single element ih | stream element ih => rw [expression, display_generic, ih]; rfl
  | record id => exact display_name id.text

instance (name : String) : Decidable (IsWord name) :=
  decidable_of_iff (name.toList ≠ [] ∧ name.toList.all TypeExpr.Token.isWordChar = true)
    (and_congr_right fun _ => List.all_eq_true)

theorem spelling_names_words : ∀ name ∈ spellingNames, IsWord name := by
  decide +kernel

theorem number_word_listed (kind : NumberKind) : numberWord kind ∈ spellingNames := by
  cases kind <;> decide

theorem expression_well_formed (type : Descriptor) (words : ∀ id ∈ type.records, IsWord id.text) :
    WellFormed type.expression := by
  have fixed (name : String) (args : List TypeExpr) (dims : Nat) (listed : name ∈ spellingNames)
      (inner : ∀ arg ∈ args, WellFormed arg) : WellFormed ⟨name, args, dims⟩ :=
    .named name args dims (spelling_names_words name listed) inner
  induction type with
  | number kind => exact fixed _ [] 0 (number_word_listed kind) (by simp)
  | boolean | text | void | dateTime | binary => exact fixed _ [] _ (by decide) (by simp)
  | list element ih | single element ih | stream element ih =>
      exact fixed _ [element.expression] 0 (by decide) (List.forall_mem_singleton.mpr (ih words))
  | record id => exact .named id.text [] 0 (words id List.mem_cons_self) (by simp)

section Resolution

variable (resolver : Resolver) (free : ∀ record ∈ resolver.records, record.text ∉ spellingNames)

include free in
theorem spelling_name_resolved (name : String) (args : List TypeExpr) (kind : Builtin) (listed : name ∈ spellingNames)
    (builtin : Builtin.ofName? (TypeExpr.simpleNameOf name) = some kind) :
    resolver.resolve ⟨name, args, 0⟩ = kind.apply (TypeExpr.simpleNameOf name) (resolver.argumentOf args) := by
  rw [resolver.resolve_name]
  exact resolver.named_builtin name _ kind (fun known => free ⟨name⟩ known listed) builtin

-- A record that is looked up under its identity and found, or not taken for
-- anything else.
def Found (id : RecordId) : Prop :=
  id ∈ resolver.records ∨
    (Builtin.ofName? id.simpleName = none ∧ ∀ record ∈ resolver.records, record.simpleName ≠ id.simpleName)

instance (id : RecordId) : Decidable (Found resolver id) := inferInstanceAs (Decidable (_ ∨ _))

theorem identity_resolved (id : RecordId) (found : Found resolver id) :
    resolver.resolve ⟨id.text, [], 0⟩ = .record id := by
  rw [resolver.resolve_name]
  by_cases known : id ∈ resolver.records
  · exact resolver.named_known id.text _ known
  · obtain ⟨other, fresh⟩ := found.resolve_left known
    rw [resolver.named_else id.text _ known other, resolver.record_of_fresh id.text fresh]

include free in
theorem expression_resolved (type : Descriptor) (found : ∀ id ∈ type.records, Found resolver id) :
    resolver.resolve type.expression = type := by
  induction type with
  | number kind =>
      have builtin : Builtin.ofName? (TypeExpr.simpleNameOf (numberWord kind)) = some (.plain (.number kind)) := by
        cases kind <;> decide +kernel
      exact spelling_name_resolved resolver free _ [] _ (number_word_listed kind) builtin
  | boolean | text | void | dateTime =>
      exact spelling_name_resolved resolver free _ [] (.plain _) (by decide) (by decide +kernel)
  | binary =>
      have byte : TypeExpr.simpleNameOf "byte" ∈ Resolver.byteNames := by decide +kernel
      exact resolver.resolve_byte_array ⟨"byte", [], 1⟩ ⟨Nat.one_pos, rfl, byte⟩
  | list element ih =>
      have built := spelling_name_resolved resolver free "List" [element.expression] .collection (by decide)
        (by decide +kernel)
      have plain : TypeExpr.simpleNameOf "List" ≠ "Vec" := by decide +kernel
      rw [expression, built, Builtin.apply, if_neg (fun bytes => plain bytes.2), Resolver.argumentOf, ih found]
  | single value ih =>
      have built := spelling_name_resolved resolver free "Mono" [value.expression] .single (by decide)
        (by decide +kernel)
      rw [expression, built, Builtin.apply, Resolver.argumentOf, ih found]
  | stream element ih =>
      have built := spelling_name_resolved resolver free "Flux" [element.expression] .stream (by decide)
        (by decide +kernel)
      rw [expression, built, Builtin.apply, Resolver.argumentOf, ih found]
  | record id => exact identity_resolved resolver id (found id List.mem_cons_self)

end Resolution

theorem spelled_type_resolved (resolver : Resolver) (type : Descriptor)
    (free : ∀ record ∈ resolver.records, record.text ∉ spellingNames)
    (words : ∀ id ∈ type.records, IsWord id.text) (found : ∀ id ∈ type.records, Found resolver id) :
    resolver.resolveText type.spell = .ok type := by
  have read : parse type.spell = .ok type.expression :=
    display_expression type ▸ TypeExpr.parse_display type.expression (expression_well_formed type words)
  rw [resolver.resolve_text_ok _ _ read, expression_resolved resolver free type found]

-- The class is known under a built-in name, and the patch not at all.
def calendarResolver : Resolver := ⟨[⟨"org.demo.Date"⟩, ⟨"org.demo.Account"⟩]⟩

theorem date_class_written_down :
    (∀ record ∈ calendarResolver.records, record.text ∉ spellingNames) ∧
      calendarResolver.resolveText "Flux<List<Mono<org.demo.Date>>>" =
        .ok (.stream (.list (.single (.record ⟨"org.demo.Date"⟩)))) ∧
      calendarResolver.resolveText "Mono<com.acme.Patch>" = .ok (.single (.record ⟨"com.acme.Patch"⟩)) := by
  have free : ∀ record ∈ calendarResolver.records, record.text ∉ spellingNames := by decide +kernel
  have known := spelled_type_resolved calendarResolver (.stream (.list (.single (.record ⟨"org.demo.Date"⟩)))) free
    (by decide +kernel) (by decide +kernel)
  have fresh := spelled_type_resolved calendarResolver (.single (.record ⟨"com.acme.Patch"⟩)) free
    (by decide +kernel) (by decide +kernel)
  exact ⟨free, known, fresh⟩

end ClientPackager.Descriptor
