import ClientPackager.Proofs.Client.TypeMeaning
import ClientPackager.Proofs.Registry.RecordNames

set_option autoImplicit false

namespace ClientPackager.Client.Registry

open Contract (RecordTable)
open ScriptType (Denotes IsName)

theorem record_name_is_name (name : String) (record : RecordName name) : IsName name :=
  ⟨List.ne_nil_of_mem record.joined, record.letters⟩

theorem record_name_apart (name : String) (record : RecordName name) :
    name ∉ Erased.ownWords.map Prod.fst ∧ name ≠ "any" := by
  have plain : ∀ word ∈ "any" :: Erased.ownWords.map Prod.fst, '_' ∉ word.toList := by decide +kernel
  have unlisted : name ∉ "any" :: Erased.ownWords.map Prod.fst := fun listed => plain name listed record.joined
  exact ⟨fun listed => unlisted (List.mem_cons_of_mem _ listed), fun same => unlisted (same ▸ List.mem_cons_self)⟩

theorem name_or_any (registry : Registry) (all : RecordNames registry) (id : RecordId) :
    IsName (registry.nameOr "any" id) ∧ registry.nameOr "any" id ∉ Erased.ownWords.map Prod.fst := by
  cases named : registry.nameOf? id with
  | none =>
      rw [nameOr, named]
      exact ⟨by decide +kernel, by decide⟩
  | some name =>
      have record := record_name_of_id registry all id name named
      rw [nameOr, named]
      exact ⟨record_name_is_name name record, (record_name_apart name record).1⟩

theorem erased_names (name : RecordId → String) (type : Descriptor) :
    ∀ word ∈ (erase name type).names, ∃ id, word = name id := by
  induction type with
  | number | boolean | text | void | dateTime | binary => simp [erase, Erased.names]
  | list inner ih | single inner ih | stream inner ih => exact ih
  | record id => simp [erase, Erased.names]

theorem runtime_text_erased (registry : Registry) (all : RecordNames registry) (type : Descriptor) :
    registry.runtimeText type = (erase (registry.nameOr "any") type).runtimeText := by
  induction type with
  | number | boolean | text | void | dateTime | binary | list | stream => rfl
  | single value ih => exact ih
  | record id =>
      cases named : registry.nameOf? id with
      | none => simp [runtimeText, runtimeTextBy, erase, Erased.runtimeText, nameOr, named]
      | some name =>
          have apart := (record_name_apart name (record_name_of_id registry all id name named)).2
          simp [runtimeText, runtimeTextBy, erase, Erased.runtimeText, nameOr, named, apart]

theorem static_text_denotes (registry : Registry) (all : RecordNames registry) (type : Descriptor) :
    Denotes (registry.staticText type) (erase (registry.nameOr "any") type).meaning := by
  rw [staticText, static_text_erased]
  refine (Erased.text_groupable _ fun word listed => ?_).whole
  obtain ⟨id, rfl⟩ := erased_names _ type word listed
  exact (registry.name_or_any all id).1

theorem erased_of_meaning (registry : Registry) (all : RecordNames registry) (type : Descriptor) :
    Erased.ofMeaning (erase (registry.nameOr "any") type).meaning = erase (registry.nameOr "any") type := by
  refine Erased.of_meaning _ fun word listed => ?_
  obtain ⟨id, rfl⟩ := erased_names _ type word listed
  exact (registry.name_or_any all id).2

theorem static_text_iff_erased (registry : Registry) (all : RecordNames registry) (type other : Descriptor) :
    registry.staticText type = registry.staticText other ↔
      erase (registry.nameOr "any") type = erase (registry.nameOr "any") other := by
  constructor
  · intro same
    have first := registry.static_text_denotes all type
    rw [same] at first
    have meanings := ScriptType.denotes_unique _ _ _ first (registry.static_text_denotes all other)
    rw [← registry.erased_of_meaning all type, meanings, registry.erased_of_meaning all other]
  · intro same
    rw [staticText, staticText, static_text_erased, static_text_erased, same]

theorem static_text_faithful (calls : List Call)
    (plain : ∀ table method type, .register table method type ∈ calls →
      Identifying method ∧ ∀ id, Leads table type id → Identifying id.simpleName) (type other : Descriptor) :
    let registry := afterCalls calls
    let erased := erase (registry.nameOr "any")
    (registry.staticText type = registry.staticText other ↔ erased type = erased other) ∧
      (∀ meant, Denotes (registry.staticText type) meant ↔ meant = (erased type).meaning) ∧
      (registry.staticText type = registry.staticText other → registry.runtimeText type = registry.runtimeText other) := by
  intro registry erased
  have all : RecordNames registry := calls_record_names calls empty (by simp [RecordNames, empty]) plain
  have same := registry.static_text_iff_erased all type other
  refine ⟨same, fun meant => ⟨fun read => ?_, fun own => own ▸ registry.static_text_denotes all type⟩, fun alike => ?_⟩
  · exact ScriptType.denotes_unique _ _ _ read (registry.static_text_denotes all type)
  · rw [registry.runtime_text_erased all, registry.runtime_text_erased all, same.mp alike]

def accounts : RecordTable :=
  ⟨[⟨⟨"org.demo.Account"⟩, [⟨"owner", .list (.record ⟨"org.demo.User"⟩)⟩]⟩]⟩

def accountCalls : List Call := [.register accounts "find" (.stream (.record ⟨"org.demo.Account"⟩))]

theorem account_leads (id : RecordId) (leads : Leads accounts (.stream (.record ⟨"org.demo.Account"⟩)) id) :
    id = ⟨"org.demo.Account"⟩ ∨ id = ⟨"org.demo.User"⟩ := by
  have fields (parent : RecordId) : fieldRecords accounts parent ⊆ [⟨"org.demo.User"⟩] := by
    by_cases account : parent = ⟨"org.demo.Account"⟩
    · rw [account]
      decide +kernel
    · simp [fieldRecords, accounts, Contract.RecordTable.fieldsOf, Contract.RecordTable.get?, Ne.symm account]
  cases leads with
  | named id named => exact .inl (List.mem_singleton.mp named)
  | field parent id _ declared => exact .inr (List.mem_singleton.mp (fields parent declared))

theorem account_named : (afterCalls accountCalls).nameOr "any" ⟨"org.demo.Account"⟩ = "Account_find" := by
  have named : (empty.define accounts "find" ⟨"org.demo.Account"⟩).nameOf? ⟨"org.demo.Account"⟩ = some "Account_find" := by
    decide +kernel
  have walked : afterCalls accountCalls = (empty.define accounts "find" ⟨"org.demo.Account"⟩).visit accounts "find"
      (fieldRecords accounts ⟨"org.demo.Account"⟩ ++ []) :=
    visit_fresh accounts "find" empty ⟨"org.demo.Account"⟩ [] (by simp [defined, empty])
  obtain ⟨definitions, typedefs⟩ := visit_extends accounts "find" (empty.define accounts "find" ⟨"org.demo.Account"⟩)
    (fieldRecords accounts ⟨"org.demo.Account"⟩ ++ [])
  have kept := extends_keeps_name _ _ ⟨definitions, typedefs ▸ List.prefix_refl _⟩ _ _ named
  rw [nameOr, walked, kept, Option.getD_some]

theorem account_streams_told_apart :
    let registry := afterCalls accountCalls
    registry.staticText (.list (.stream (.record ⟨"org.demo.Account"⟩))) =
        "(Account_find[] | Observable<Account_find> | Flowable<Account_find>)[]" ∧
      (∀ meant, Denotes (registry.staticText (.list (.stream (.record ⟨"org.demo.Account"⟩)))) meant ↔
        meant = .array (.union (.array (.named "Account_find"))
          (.union (.applied "Observable" (.named "Account_find")) (.applied "Flowable" (.named "Account_find"))))) ∧
      registry.staticText (.list (.stream (.record ⟨"org.demo.Account"⟩))) ≠
        registry.staticText (.stream (.list (.record ⟨"org.demo.Account"⟩))) := by
  intro registry
  have plain : ∀ table method type, .register table method type ∈ accountCalls →
      Identifying method ∧ ∀ id, Leads table type id → Identifying id.simpleName := by
    intro table method type listed
    obtain ⟨rfl, rfl, rfl⟩ := Call.register.inj (List.mem_singleton.mp listed)
    refine ⟨by decide +kernel, fun id leads => ?_⟩
    rcases account_leads id leads with rfl | rfl <;> decide +kernel
  have faithful := static_text_faithful accountCalls plain (.list (.stream (.record ⟨"org.demo.Account"⟩)))
    (.stream (.list (.record ⟨"org.demo.Account"⟩)))
  refine ⟨?_, ?_, fun same => ?_⟩
  · rw [staticText, static_text_erased, erase, erase, erase, account_named]
    decide +kernel
  · have denoted := faithful.2.1
    simpa only [erase, Erased.meaning, account_named] using denoted
  · exact absurd (faithful.1.mp same) (by simp [erase])

end ClientPackager.Client.Registry
