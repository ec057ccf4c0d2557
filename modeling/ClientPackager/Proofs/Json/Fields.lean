import Mathlib.Data.List.Nodup
import ClientPackager.Json.Decode
import ClientPackager.Proofs.Json.Printed

set_option autoImplicit false

namespace ClientPackager.Json

variable (manner : Manner)

theorem lookup_named (members : List (String × Json)) (distinct : (members.map Prod.fst).Nodup) :
    ((members.map Prod.fst).map fun name => members.lookup name) = members.map fun member => some member.2 := by
  induction members with
  | nil => rfl
  | cons member rest ih =>
      obtain ⟨name, value⟩ := member
      obtain ⟨new, later⟩ := List.nodup_cons.mp distinct
      have passed : ((rest.map Prod.fst).map fun other => ((name, value) :: rest).lookup other) =
          (rest.map Prod.fst).map fun other => rest.lookup other := by
        apply List.map_congr_left
        intro other listed
        have apart : (other == name) = false := by simpa using fun same : other = name => new (same ▸ listed)
        simp [List.lookup_cons, apart]
      rw [List.map_cons, List.map_cons, passed, ih later]
      simp

-- An object with the fields of a record and no others is read as the record is
-- written.
theorem fields_in_order (names : List String) (least : Nat) (members : List (String × Json))
    (named : members.map Prod.fst = names) (distinct : names.Nodup) :
    fields manner names least (.object members) = some (members.map fun member => some member.2) := by
  subst named
  have once : Json.distinct (members.map Prod.fst) members = true := by
    rw [Json.distinct, List.all_eq_true]
    intro name _
    have few := List.nodup_iff_count_le_one.mp distinct name
    rw [List.count_eq_countP, List.countP_map, List.countP_eq_length_filter] at few
    exact decide_eq_true few
  have none : members.filter (fun member => !(members.map Prod.fst).contains member.1) = [] := by
    rw [List.filter_eq_nil_iff]
    intro member listed
    have known : member.1 ∈ members.map Prod.fst := List.mem_map_of_mem listed
    simpa using known
  simp only [fields, once, none, lookup_named members distinct]
  rfl

section Values

variable {α : Type} (read : Json → Option α) (write : α → Json) (restored : ∀ value, read (write value) = some value)

include restored

theorem list_restored (values : List α) : list read (.array (values.map write)) = some values := by
  rw [list]
  induction values with
  | nil => rfl
  | cons value rest ih => simp only [List.map_cons, List.mapM_cons, restored, ih]; rfl

theorem nullable_restored (solid : ∀ value, write value ≠ .null) (value : Option α) :
    nullable read (some ((value.map write).getD .null)) = some value := by
  cases value with
  | none => rfl
  | some value =>
      rw [Option.map_some, Option.getD_some, nullable.eq_3 read (write value) (solid value), restored]
      rfl

end Values

theorem optional_restored (value : Option String) : nullable string? (some (optional value)) = some value := by
  cases value <;> rfl

theorem worded_optional (value : Option String) : Worded (optional value) := by
  cases value with
  | none => exact .null
  | some s => exact .string s

theorem worded_list {α : Type} (write : α → Json) (values : List α) (each : ∀ value, Worded (write value)) :
    Worded (.array (values.map write)) := by
  apply Worded.array
  intro item member
  obtain ⟨value, _, rfl⟩ := List.mem_map.mp member
  exact each value

theorem worded_object (members : List (String × Json)) (each : ∀ value ∈ members.map Prod.snd, Worded value) :
    Worded (.object members) :=
  .object members fun _ listed => each _ (List.mem_map_of_mem listed)

end ClientPackager.Json
