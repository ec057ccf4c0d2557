import Mathlib.Data.List.Induction
import ClientPackager.Proofs.Lookup

set_option autoImplicit false

namespace ClientPackager.Keyed

variable {α κ : Type} [DecidableEq κ] {key : α → κ}

def insertAll (list : Keyed key) (items : List α) : Keyed key := items.foldl insert list

-- What was given last under a key.
def last? (key : α → κ) (items : List α) (k : κ) : Option α := (items.filter fun item => key item = k).getLast?

theorem last_snoc (items : List α) (item : α) (k : κ) :
    last? key (items ++ [item]) k = if key item = k then some item else last? key items k := by
  by_cases same : key item = k <;> simp [last?, same]

theorem last_split (key : α → κ) (items : List α) (k : κ) (item : α) (last : last? key items k = some item) :
    key item = k ∧ ∃ earlier later, items = earlier ++ item :: later ∧ ∀ other ∈ later, key other ≠ k := by
  induction items using List.reverseRecOn with
  | nil => simp [last?] at last
  | append_singleton items next ih =>
      rw [last_snoc] at last
      split at last
      · next same =>
          obtain rfl := Option.some.inj last
          exact ⟨same, items, [], rfl, by simp⟩
      · next other =>
          obtain ⟨keyed, earlier, later, shape, none⟩ := ih last
          refine ⟨keyed, earlier, later ++ [next], by simp [shape], ?_⟩
          rw [List.forall_mem_append, List.forall_mem_singleton]
          exact ⟨none, other⟩

theorem insert_all_snoc (list : Keyed key) (items : List α) (item : α) :
    list.insertAll (items ++ [item]) = (list.insertAll items).insert item := by
  rw [insertAll, List.foldl_concat, insertAll]

theorem find_all (list : Keyed key) (items : List α) (k : κ) :
    (list.insertAll items).find? k = (last? key items k).or (list.find? k) := by
  induction items using List.reverseRecOn with
  | nil => rfl
  | append_singleton items item ih =>
      rw [insert_all_snoc, find_inserted, last_snoc, ih]
      split <;> rfl

theorem erase_dups_snoc (keys : List κ) (k : κ) :
    (keys ++ [k]).eraseDups = if k ∈ keys then keys.eraseDups else keys.eraseDups ++ [k] := by
  rw [List.eraseDups_append, List.removeAll, List.filter_singleton]
  by_cases known : k ∈ keys <;> simp [known, List.eraseDups_cons]

-- A key has its place from where it is met first.
theorem keys_all (items : List α) :
    ((empty : Keyed key).insertAll items).items.map key = (items.map key).eraseDups := by
  induction items using List.reverseRecOn with
  | nil => rfl
  | append_singleton items item ih =>
      rw [insert_all_snoc, insert, map_replaceOrAppend, ih, List.map_append, List.map_singleton, erase_dups_snoc]
      simp only [List.mem_eraseDups]

theorem items_by_keys (list : Keyed key) : list.items = (list.items.map key).filterMap list.find? := by
  rw [List.filterMap_map]
  symm
  calc list.items.filterMap (list.find? ∘ key) = list.items.filterMap some :=
        List.filterMap_congr fun item listed => list.find_listed item listed
    _ = list.items := List.filterMap_some

end ClientPackager.Keyed
