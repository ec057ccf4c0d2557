import ClientPackager.Json.Decode

set_option autoImplicit false

namespace ClientPackager

structure Dependencies where
  entries : List (String × String)
  ascending : entries.Pairwise fun a b => a.1 < b.1
deriving DecidableEq, Repr

namespace Dependencies

def empty : Dependencies := ⟨[], .nil⟩

def insertEntry (name range : String) : List (String × String) → List (String × String)
  | [] => [(name, range)]
  | entry :: rest =>
    if name < entry.1 then (name, range) :: entry :: rest
    else if name = entry.1 then (name, range) :: rest
    else entry :: insertEntry name range rest

theorem mem_insertEntry {name range : String} {entry : String × String}
    {entries : List (String × String)} (member : entry ∈ insertEntry name range entries) :
    entry = (name, range) ∨ entry ∈ entries := by
  induction entries with
  | nil => simpa [insertEntry] using member
  | cons head rest ih =>
    unfold insertEntry at member
    split at member
    · simpa using member
    · split at member
      · rcases List.mem_cons.mp member with here | later
        · exact .inl here
        · exact .inr (List.mem_cons_of_mem _ later)
      · rcases List.mem_cons.mp member with here | later
        · exact .inr (here ▸ List.mem_cons_self)
        · exact (ih later).imp_right (List.mem_cons_of_mem _)

theorem insertEntry_ascending {name range : String} {entries : List (String × String)}
    (ascending : entries.Pairwise fun a b => a.1 < b.1) :
    (insertEntry name range entries).Pairwise fun a b => a.1 < b.1 := by
  induction entries with
  | nil => simp [insertEntry]
  | cons head rest ih =>
    have ⟨below, ordered⟩ := List.pairwise_cons.mp ascending
    unfold insertEntry
    split
    · next less =>
      refine List.pairwise_cons.mpr ⟨fun entry member => ?_, ascending⟩
      rcases List.mem_cons.mp member with rfl | later
      · exact less
      · exact String.lt_trans less (below entry later)
    · next notLess =>
      split
      · next same =>
        exact List.pairwise_cons.mpr ⟨fun entry member => same ▸ below entry member, ordered⟩
      · next different =>
        refine List.pairwise_cons.mpr ⟨fun entry member => ?_, ih ordered⟩
        rcases mem_insertEntry member with rfl | later
        · have atLeast := String.not_lt.mp notLess
          exact Classical.byContradiction fun notMore =>
            different (String.le_antisymm (String.not_lt.mp notMore) atLeast)
        · exact below entry later

def insert (dependencies : Dependencies) (name range : String) : Dependencies :=
  ⟨insertEntry name range dependencies.entries, insertEntry_ascending dependencies.ascending⟩

def ofList (entries : List (String × String)) : Dependencies :=
  entries.foldl (fun dependencies entry => dependencies.insert entry.1 entry.2) empty

def toJson (dependencies : Dependencies) : Json :=
  .object (dependencies.entries.map fun entry => (entry.1, .string entry.2))

def ofJson? : Json → Option Dependencies
  | .object members => do
    let entries ← members.mapM fun member => do return (member.1, ← member.2.string?)
    return ofList entries
  | _ => none

end Dependencies
end ClientPackager
