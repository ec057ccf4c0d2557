import Mathlib.Data.List.Nodup
import ClientPackager.Keyed

set_option autoImplicit false

namespace ClientPackager

-- One item at most has a key, so it does not matter from where it is looked for.
theorem find_by_key_of_perm {α κ : Type} [BEq κ] [LawfulBEq κ] (key : α → κ) (items others : List α)
    (permuted : others.Perm items) (distinct : (items.map key).Nodup) (k : κ) :
    others.find? (key · == k) = items.find? (key · == k) := by
  cases search : items.find? (key · == k) with
  | none =>
      rw [List.find?_eq_none] at search ⊢
      exact fun item member => search item (permuted.mem_iff.mp member)
  | some found =>
      have keyed : key found = k := by simpa using List.find?_some search
      have listed : found ∈ items := List.mem_of_find?_eq_some search
      have present : (others.find? (key · == k)).isSome := by
        rw [List.find?_isSome]
        exact ⟨found, permuted.mem_iff.mpr listed, by simp [keyed]⟩
      obtain ⟨other, otherwise⟩ := Option.isSome_iff_exists.mp present
      have alsoKeyed : key other = k := by simpa using List.find?_some otherwise
      have alsoListed : other ∈ items := permuted.mem_iff.mp (List.mem_of_find?_eq_some otherwise)
      rw [otherwise, List.inj_on_of_nodup_map distinct alsoListed listed (alsoKeyed.trans keyed.symm)]

namespace Keyed

variable {α κ : Type} [DecidableEq κ]

theorem find_replaced_or_appended (key : α → κ) (item : α) (items : List α) (k : κ) :
    (replaceOrAppend key item items).find? (fun other => key other = k) =
      if key item = k then some item else items.find? fun other => key other = k := by
  induction items with
  | nil => by_cases same : key item = k <;> simp [replaceOrAppend, same]
  | cons first rest ih =>
      by_cases replaced : key first = key item
      · rw [replaceOrAppend, if_pos replaced, List.find?_cons, List.find?_cons, replaced]
        by_cases same : key item = k <;> simp [same]
      · rw [replaceOrAppend, if_neg replaced, List.find?_cons, List.find?_cons, ih]
        by_cases here : key first = k
        · have other : key item ≠ k := fun same => replaced (here.trans same.symm)
          simp [here, other]
        · simp [here]

theorem find_inserted {key : α → κ} (list : Keyed key) (item : α) (k : κ) :
    (list.insert item).find? k = if key item = k then some item else list.find? k :=
  find_replaced_or_appended key item list.items k

theorem find_listed {key : α → κ} (list : Keyed key) (item : α) (listed : item ∈ list.items) :
    list.find? (key item) = some item := by
  have present : (list.find? (key item)).isSome := by
    rw [find?, List.find?_isSome]
    exact ⟨item, listed, by simp⟩
  obtain ⟨found, search⟩ := Option.isSome_iff_exists.mp present
  have keyed : key found = key item := by simpa using List.find?_some search
  rw [search, List.inj_on_of_nodup_map list.distinct (List.mem_of_find?_eq_some search) listed keyed]

theorem find_erased {key : α → κ} (list : Keyed key) (gone k : κ) :
    (list.erase gone).find? k = if gone = k then none else list.find? k := by
  rw [find?, erase, List.find?_filter]
  by_cases same : gone = k
  · subst same
    simp
  · rw [if_neg same]
    congr 1
    funext item
    by_cases keyed : key item = k <;> simp [keyed, Ne.symm same]

theorem append_new (key : α → κ) (item : α) (items : List α)
    (new : key item ∉ items.map key) : replaceOrAppend key item items = items ++ [item] := by
  induction items with
  | nil => rfl
  | cons first rest ih =>
      rw [List.map_cons, List.mem_cons, not_or] at new
      rw [replaceOrAppend, if_neg (Ne.symm new.1), ih new.2, List.cons_append]

end Keyed

end ClientPackager
