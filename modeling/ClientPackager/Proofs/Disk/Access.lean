import ClientPackager.Proofs.Disk.Place

set_option autoImplicit false

namespace ClientPackager

open DiskPath (ofSteps)

-- A place that a path can lead to.
structure Fits (spot : Place) : Prop where
  present : spot ≠ []
  named : Named spot
  short : (ofSteps true spot).utf8ByteSize ≤ Disk.longestPath

theorem canonical_clean (spot : Place) (named : Named spot) :
    (ofSteps true spot).toList.contains '\x00' = false := by
  rw [canonical_text]
  split
  · rfl
  · simp only [FilePath.written, List.contains_eq_mem, decide_eq_false_iff_not, List.mem_flatMap, List.mem_map]
    rintro ⟨_, ⟨name, listed, rfl⟩, held⟩
    rcases List.mem_cons.mp held with slash | inside
    · simp at slash
    · exact (named name listed).clean inside

namespace Disk

variable (disk : Disk)

-- All places that a path leads through on its way to a place are directories.
def Reachable (place : Place) : Prop :=
  ∀ front, front <+: place → front ≠ place → disk.node? front = some .directory

def Fileless (spot : Place) : Prop := ∀ content, disk.node? spot ≠ some (.file content)

instance : DecidablePred disk.Fileless := fun spot =>
  decidable_of_iff ((disk.node? spot).map Node.kind ≠ some .file) <| by
    rw [Fileless]
    cases disk.node? spot with
    | none => simp
    | some node => cases node <;> simp [Node.kind]

theorem walk_down (names : List String) (start : Place) (named : Named names)
    (opened : ∀ front, front <+: names → front ≠ names → disk.node? (start ++ front) = some .directory) :
    names.foldlM disk.step start = .ok (start ++ names) := by
  induction names generalizing start with
  | nil => rw [List.append_nil]; rfl
  | cons name rest ih =>
      have own := named name List.mem_cons_self
      have here : disk.node? start = some .directory := by simpa using opened [] List.nil_prefix (by simp)
      have step : disk.step start name = .ok (start ++ [name]) := by
        simp [Disk.step, here, own.here, own.up, Nat.not_lt.mpr own.short]
      rw [List.foldlM_cons, step]
      have later := ih (start ++ [name]) (fun other listed => named other (List.mem_cons_of_mem name listed))
        fun front leads inner => by
          simpa using opened (name :: front) (List.cons_prefix_cons.mpr ⟨rfl, leads⟩) (by simpa using inner)
      rw [List.append_assoc, List.singleton_append] at later
      exact later

-- No file is in the way, and yet the way is not there.
theorem walk_lost (names : List String) (start : Place) (named : Named names)
    (clear : ∀ front, front <+: names → front ≠ names → disk.Fileless (start ++ front))
    (lost : ¬ ∀ front, front <+: names → front ≠ names → disk.node? (start ++ front) = some .directory) :
    names.foldlM disk.step start = .error .notFound := by
  induction names generalizing start with
  | nil => exact absurd (fun front leads inner => absurd (List.prefix_nil.mp leads) inner) lost
  | cons name rest ih =>
      have own := named name List.mem_cons_self
      cases here : disk.node? start with
      | none =>
          rw [List.foldlM_cons, Disk.step, here]
          rfl
      | some node =>
          cases node with
          | file content => exact absurd here (by simpa using clear [] List.nil_prefix (by simp) content)
          | directory =>
              have step : disk.step start name = .ok (start ++ [name]) := by
                simp [Disk.step, here, own.here, own.up, Nat.not_lt.mpr own.short]
              rw [List.foldlM_cons, step]
              refine ih (start ++ [name]) (fun other listed => named other (List.mem_cons_of_mem name listed)) ?_ ?_
              · intro front leads inner content
                have behind : name :: front <+: name :: rest := List.cons_prefix_cons.mpr ⟨rfl, leads⟩
                simpa using clear (name :: front) behind (by simpa using inner) content
              · intro opened
                apply lost
                intro front leads inner
                cases front with
                | nil => simpa using here
                | cons first later =>
                    obtain ⟨rfl, behind⟩ := List.cons_prefix_cons.mp leads
                    simpa using opened later behind (by simpa using inner)

theorem locate_at (spot : Place) (fits : Fits spot) (reach : disk.Reachable spot) :
    disk.locate (ofSteps true spot) = .ok ⟨spot, false, false⟩ := by
  have slashed : Text.hasTrailing "/" (ofSteps true spot) = false := by
    rw [canonical_trailing spot fits.named]
    exact decide_eq_false fits.present
  rw [locate_ok, steps_of_canonical spot fits.named, slashed]
  have present := DiskPath.absolute_ne_empty _ (canonical_absolute spot)
  refine ⟨canonical_clean spot fits.named, present, fits.short, spot, ?_, ?_⟩
  · rw [startOf, if_pos (canonical_absolute spot)]
    exact walk_down disk spot [] fits.named reach
  · obtain ⟨front, last, rfl⟩ := (List.eq_nil_or_concat spot).resolve_left fits.present
    have own := fits.named last (by simp)
    simp [own.here, own.up]

theorem locate_lost (spot : Place) (fits : Fits spot)
    (clear : ∀ front, front <+: spot → front ≠ spot → disk.Fileless front)
    (lost : ¬ disk.Reachable spot) : disk.locate (ofSteps true spot) = .error .notFound := by
  have walked := walk_lost disk spot [] fits.named clear lost
  have steps := steps_of_canonical spot fits.named
  rw [stepsOf] at steps
  have present := DiskPath.absolute_ne_empty _ (canonical_absolute spot)
  simp only [locate, canonical_clean spot fits.named, present, Nat.not_lt.mpr fits.short, canonical_absolute,
    steps, Bool.false_eq_true, if_false, if_true, walked]
  rfl

section Access

variable (spot : Place) (fits : Fits spot) (reach : disk.Reachable spot)

include fits reach

theorem find_at : disk.find (ofSteps true spot) =
    ((disk.node? spot).elim (.error .notFound) fun node => .ok (spot, node)) := by
  rw [find, locate_at disk spot fits reach]
  simp only [bind, Except.bind]
  cases disk.node? spot with
  | none => rfl
  | some node => cases node <;> rfl

theorem kind_at : (FileStore.kind? (ofSteps true spot) : StateM Disk _) disk =
    ((disk.node? spot).map Node.kind, disk) := by
  have found := find_at disk spot fits reach
  simp only [FileStore.kind?, found]
  cases disk.node? spot <;> rfl

theorem exists_at : (FileStore.pathExists (m := StateM Disk) (ofSteps true spot)) disk =
    ((disk.node? spot).isSome, disk) := by
  simp only [FileStore.pathExists, bind, StateT.bind, kind_at disk spot fits reach]
  cases disk.node? spot <;> rfl

theorem is_directory_at : (FileStore.isDirectory (m := StateM Disk) (ofSteps true spot)) disk =
    (decide (disk.node? spot = some .directory), disk) := by
  simp only [FileStore.isDirectory, bind, StateT.bind, kind_at disk spot fits reach]
  cases disk.node? spot with
  | none => rfl
  | some node => cases node <;> rfl

theorem make_at : disk.makeDirectory (ofSteps true spot) =
    if (disk.node? spot).isSome then .error .alreadyExists else .ok (disk.put spot .directory) := by
  rw [makeDirectory, locate_at disk spot fits reach]
  simp only [bind, Except.bind]
  split <;> rfl

theorem write_at (content : FileContent) : disk.write (ofSteps true spot) content =
    if disk.node? spot = some .directory then .error .isADirectory else .ok (disk.put spot (.file content)) := by
  rw [write, locate_at disk spot fits reach]
  simp only [bind, Except.bind, Bool.false_or, decide_eq_true_eq]
  split <;> rfl

end Access

theorem rename_at (old new : Place) (content : FileContent) (oldFits : Fits old) (newFits : Fits new)
    (oldReach : disk.Reachable old) (newReach : disk.Reachable new) (held : disk.node? old = some (.file content))
    (solid : disk.node? new ≠ some .directory) : disk.rename (ofSteps true old) (ofSteps true new) =
      .ok ((disk.remove old).put new (.file content)) := by
  rw [rename, locate_at disk old oldFits oldReach, locate_at disk new newFits newReach]
  simp only [bind, Except.bind, held, solid, Bool.or_self]
  rfl

end Disk

end ClientPackager
