set_option autoImplicit false

namespace ClientPackager

variable {α κ : Type}

-- Inserting an item replaces the one with its key in its place, and puts an item with a
-- new key at the end: the keys are as before, or one more follows.
structure Keyed (key : α → κ) where
  items : List α
  distinct : (items.map key).Nodup

namespace Keyed

def replaceOrAppend [DecidableEq κ] (key : α → κ) (item : α) : List α → List α
  | [] => [item]
  | first :: rest =>
    if key first = key item then item :: rest else first :: replaceOrAppend key item rest

theorem map_replaceOrAppend [DecidableEq κ] (key : α → κ) (item : α) (items : List α) :
    (replaceOrAppend key item items).map key =
      if key item ∈ items.map key then items.map key else items.map key ++ [key item] := by
  induction items with
  | nil => simp [replaceOrAppend]
  | cons first rest ih =>
    by_cases same : key first = key item
    · simp [replaceOrAppend, same]
    · have other : key item ≠ key first := fun eq => same eq.symm
      simp only [replaceOrAppend, same, if_false, List.map_cons, List.mem_cons, other, false_or, ih]
      split <;> rfl

theorem nodup_replaceOrAppend [DecidableEq κ] {key : α → κ} (item : α) {items : List α}
    (distinct : (items.map key).Nodup) : ((replaceOrAppend key item items).map key).Nodup := by
  rw [map_replaceOrAppend]
  split
  · exact distinct
  · next new =>
    refine List.nodup_append.2 ⟨distinct, by simp, ?_⟩
    intro k mem l last eq
    simp only [List.mem_singleton] at last
    exact new (last ▸ eq ▸ mem)

variable {key : α → κ}

def empty : Keyed key := ⟨[], List.nodup_nil⟩

def insert [DecidableEq κ] (list : Keyed key) (item : α) : Keyed key :=
  ⟨replaceOrAppend key item list.items, nodup_replaceOrAppend item list.distinct⟩

def erase [DecidableEq κ] (list : Keyed key) (k : κ) : Keyed key :=
  ⟨list.items.filter fun item => key item ≠ k,
    list.distinct.sublist (List.filter_sublist.map key)⟩

def find? [DecidableEq κ] (list : Keyed key) (k : κ) : Option α :=
  list.items.find? fun item => key item = k

def size (list : Keyed key) : Nat := list.items.length

def isEmpty (list : Keyed key) : Bool := list.items.isEmpty

end Keyed
end ClientPackager
