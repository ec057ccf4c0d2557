import Mathlib.Data.List.Induction
import ClientPackager.Package.Manifest
import ClientPackager.Proofs.Json.Fields

set_option autoImplicit false

namespace ClientPackager

namespace Dependencies

-- What comes after all others is put behind them.
theorem insert_entry_last (name range : String) (entries : List (String × String))
    (above : ∀ entry ∈ entries, entry.1 < name) : insertEntry name range entries = entries ++ [(name, range)] := by
  induction entries with
  | nil => rfl
  | cons entry rest ih =>
      have less : entry.1 < name := above entry List.mem_cons_self
      have apart : name ≠ entry.1 := fun same => String.lt_irrefl _ (same ▸ less)
      have behind := ih fun other listed => above other (List.mem_cons_of_mem entry listed)
      rw [insertEntry, if_neg (String.lt_asymm less), if_neg apart, behind, List.cons_append]

theorem dependencies_ext (first second : Dependencies) (same : first.entries = second.entries) : first = second := by
  cases first
  cases second
  cases same
  rfl

theorem of_list_ascending (entries : List (String × String)) (ascending : entries.Pairwise fun a b => a.1 < b.1) :
    (ofList entries).entries = entries := by
  induction entries using List.reverseRecOn with
  | nil => rfl
  | append_singleton entries entry ih =>
      obtain ⟨earlier, _, above⟩ := List.pairwise_append.mp ascending
      have inserted : (ofList (entries ++ [entry])).entries = insertEntry entry.1 entry.2 (ofList entries).entries := by
        rw [ofList, List.foldl_concat]
        rfl
      rw [inserted, ih earlier]
      exact insert_entry_last _ _ entries fun other listed => above other listed entry List.mem_cons_self

theorem dependencies_restored (dependencies : Dependencies) : ofJson? dependencies.toJson = some dependencies := by
  have members : (dependencies.entries.map fun entry => (entry.1, Json.string entry.2)).mapM
      (fun member => do return (member.1, ← member.2.string?)) = some dependencies.entries := by
    generalize dependencies.entries = entries
    induction entries with
    | nil => rfl
    | cons entry rest ih =>
        rw [List.map_cons, List.mapM_cons, ih]
        rfl
  rw [toJson, ofJson?, members]
  exact congrArg some (dependencies_ext _ _ (of_list_ascending _ dependencies.ascending))

end Dependencies

namespace Manifest

theorem manifest_fields (manifest : Manifest) :
    manifest.toJson.fields .plain ["name", "version", "main", "types", "description", "dependencies"] 6 =
      some [some (.string manifest.name), some (.string manifest.version), some (.string manifest.main),
        manifest.types.map .string, some (.string manifest.description), some manifest.dependencies.toJson] := by
  cases types : manifest.types with
  | some file => simp [toJson, typesMember, types, Json.fields_in_order]
  | none => simp [toJson, typesMember, types, Json.fields, Json.distinct, Json.Manner.plain, List.lookup_cons]

theorem types_restored (types : Option String) : Json.nullable Json.string? (types.map .string) = some types := by
  cases types <;> rfl

theorem manifest_restored (manifest : Manifest) : ofJson? manifest.toJson = some manifest := by
  simp [ofJson?, manifest_fields, Json.required, Json.string?, types_restored, Dependencies.dependencies_restored]

theorem manifest_worded (manifest : Manifest) : Json.Worded manifest.toJson := by
  have dependencies : Json.Worded manifest.dependencies.toJson := by
    apply Json.worded_object
    intro value listed
    rw [List.map_map] at listed
    obtain ⟨entry, _, rfl⟩ := List.mem_map.mp listed
    exact .string entry.2
  cases types : manifest.types <;>
    simp [toJson, typesMember, types, Json.worded_object, Json.Worded.string, dependencies]

theorem manifest_parsed (manifest : Manifest) : Json.parse manifest.text = some manifest.toJson := by
  have written := Json.indented_written manifest.toJson manifest.manifest_worded 0
  have read := Json.parse_before_gap _ _ ['\n'] written (by simp [Json.Gap, Json.isSpace])
  rw [String.ofList_append] at read
  exact read

theorem manifest_read_back (manifest : Manifest) :
    (Json.parse manifest.text).bind ofJson? = some manifest ∧
      (((Json.parse manifest.text).bind fun value => value.get? "types") = none ↔ manifest.types = none) := by
  rw [manifest_parsed]
  refine ⟨manifest.manifest_restored, ?_⟩
  cases types : manifest.types <;> simp [Json.get?, toJson, typesMember, types, List.lookup_cons]

end Manifest
end ClientPackager
