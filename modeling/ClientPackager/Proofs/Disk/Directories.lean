import Mathlib.Data.List.Infix
import ClientPackager.Proofs.Disk.Access
import ClientPackager.Proofs.Disk.Running

set_option autoImplicit false

namespace ClientPackager

open DiskPath (ofSteps)
open Export (Trail pathOf)

theorem fits_front (front spot : Place) (fits : Fits spot) (leads : front <+: spot) (present : front ≠ []) :
    Fits front := by
  obtain ⟨later, rfl⟩ := leads
  have split : ofSteps true (front ++ later) =
      ofSteps true front ++ String.ofList (FilePath.written (later.map String.toList)) := by
    apply String.toList_inj.mp
    have whole : front ++ later ≠ [] := by simp [present]
    rw [String.toList_append, canonical_text, canonical_text, if_neg whole, if_neg present]
    simp [FilePath.written]
  refine ⟨present, ((named_append front later).mp fits.named).1, ?_⟩
  have short := fits.short
  rw [split, String.utf8ByteSize_append] at short
  exact Nat.le_trans (Nat.le_add_right _ _) short

-- The paths of a place and of all places above it.
def chain (place : Place) : List String :=
  (List.range (place.length + 1)).reverse.map fun n => ofSteps true (place.take n)

theorem upward_canonical (place : Place) (named : Named place) :
    DiskPath.upward (ofSteps true place) = chain place := by
  have present := DiskPath.absolute_ne_empty _ (canonical_absolute place)
  rw [DiskPath.upward, if_neg present, chain, List.range_succ]
  simp only [path_steps place named, canonical_absolute, if_true]
  simp [Function.comp_def]

theorem chain_concat (front : Place) (name : String) :
    chain (front ++ [name]) = ofSteps true (front ++ [name]) :: chain front := by
  have shorter : (List.range (front.length + 1)).reverse.map (fun n => ofSteps true ((front ++ [name]).take n)) =
      chain front := by
    apply List.map_congr_left
    intro n listed
    have bound : n ≤ front.length := by simpa [Nat.lt_succ_iff] using listed
    rw [List.take_append_of_le_length bound]
  rw [chain, List.length_append, List.length_singleton, List.range_succ, List.reverse_append, List.map_append, shorter]
  have whole : (front ++ [name]).take (front.length + 1) = front ++ [name] := List.take_of_length_le (by simp)
  simp [whole]

namespace Disk

variable (disk : Disk)

-- A directory that is there already will do.
theorem ensure_present (path : String) (made : disk.makeDirectory path = .error .alreadyExists)
    (found : FileStore.isDirectory (m := StateM Disk) path disk = (true, disk)) :
    FileStore.ensureDirectory (m := StateM Disk) path disk = (.ok (), disk) := by
  have refused : FileStore.makeDirectory (m := StateM Disk) path disk = (.error .alreadyExists, disk) := by
    simp only [FileStore.makeDirectory, change, made]
  simp only [FileStore.ensureDirectory, bind, StateT.bind, refused, found]
  rfl

theorem ensure_root : FileStore.ensureDirectory (m := StateM Disk) (ofSteps true []) disk = (.ok (), disk) := by
  have located : disk.locate (ofSteps true []) = .ok ⟨[], true, false⟩ := rfl
  have root : disk.node? [] = some .directory := rfl
  apply ensure_present
  · simp only [makeDirectory, located, bind, Except.bind, root]
    rfl
  · simp only [FileStore.isDirectory, FileStore.kind?, find, located, bind, StateT.bind, Except.bind, root]
    rfl

theorem ensure_at (spot : Place) (fits : Fits spot) (reach : disk.Reachable spot)
    (clear : disk.Fileless spot) :
    ∃ after, FileStore.ensureDirectory (m := StateM Disk) (ofSteps true spot) disk = (.ok (), after) ∧
      ∀ other, after.node? other = if spot = other then some .directory else disk.node? other := by
  have making := make_at disk spot fits reach
  have finding := is_directory_at disk spot fits reach
  cases held : disk.node? spot with
  | none =>
      refine ⟨disk.put spot .directory, ?_, fun other => node_put disk spot .directory other fits.present⟩
      rw [held] at making
      simp only [FileStore.ensureDirectory, FileStore.makeDirectory, change, bind, StateT.bind, making]
      rfl
  | some node =>
      cases node with
      | file content => exact absurd held (clear content)
      | directory =>
          rw [held] at making finding
          refine ⟨disk, ensure_present disk _ making (by simpa using finding), fun other => ?_⟩
          split
          · next same => rw [← same, held]
          · rfl

theorem ensure_lost (spot : Place) (fits : Fits spot)
    (clear : ∀ front, front <+: spot → front ≠ spot → disk.Fileless front)
    (lost : ¬ disk.Reachable spot) :
    FileStore.ensureDirectory (m := StateM Disk) (ofSteps true spot) disk = (.error .notFound, disk) := by
  have located := locate_lost disk spot fits clear lost
  simp only [FileStore.ensureDirectory, FileStore.makeDirectory, FileStore.isDirectory, FileStore.kind?, change,
    makeDirectory, find, located, bind, StateT.bind, Except.bind]
  rfl

-- What a place leads through, and the place itself, are no files; all that is
-- missing of them is made.
def Clear (place : Place) : Prop := ∀ front, front <+: place → disk.Fileless front

instance : DecidablePred disk.Clear := fun place =>
  decidable_of_iff (∀ front ∈ place.inits, disk.Fileless front) (by simp only [List.mem_inits, Clear])

theorem make_upward (place : Place) (fits : ∀ front, front <+: place → front ≠ [] → Fits front)
    (clear : disk.Clear place) : ∃ after, FileStore.makeUpward (m := StateM Disk) (chain place) disk = (.ok (), after) ∧
      ∀ spot, after.node? spot = if spot <+: place then some .directory else disk.node? spot := by
  induction place using List.reverseRecOn with
  | nil =>
      refine ⟨disk, ?_, fun spot => ?_⟩
      · have root := ensure_root disk
        simp only [chain, List.length_nil, List.range_succ, List.range_zero, List.nil_append, List.reverse_singleton,
          List.map_singleton, List.take_nil, FileStore.makeUpward, bind, StateT.bind, root]
        rfl
      · split
        · next root => rw [List.prefix_nil.mp root]; rfl
        · rfl
  | append_singleton front name ih =>
      have own := fits (front ++ [name]) List.prefix_rfl (by simp)
      have outer := List.prefix_append front [name]
      have inner (spot : Place) : spot <+: front ++ [name] ↔ spot = front ++ [name] ∨ spot <+: front :=
        List.prefix_concat_iff
      obtain ⟨mid, climbed, view⟩ := ih (fun spot leads => fits spot (leads.trans outer))
        fun spot leads => clear spot (leads.trans outer)
      by_cases reach : disk.Reachable (front ++ [name])
      · obtain ⟨after, ensured, made⟩ := ensure_at disk _ own reach (clear _ List.prefix_rfl)
        refine ⟨after, ?_, fun spot => ?_⟩
        · simp only [chain_concat, FileStore.makeUpward, bind, StateT.bind, ensured]
          rfl
        · rw [made]
          by_cases same : front ++ [name] = spot
          · rw [if_pos same, if_pos (same ▸ List.prefix_rfl)]
          · by_cases leads : spot <+: front ++ [name]
            · rw [if_neg same, if_pos leads, reach spot leads (Ne.symm same)]
            · rw [if_neg same, if_neg leads]
      · have lost := ensure_lost disk _ own (fun spot leads _ => clear spot leads) reach
        have opened : mid.Reachable (front ++ [name]) := fun spot leads apart => by
          rw [view, if_pos (((inner spot).mp leads).resolve_left apart)]
        have free : mid.Fileless (front ++ [name]) := by
          rw [Fileless, view]
          split
          · simp
          · exact clear _ List.prefix_rfl
        obtain ⟨after, ensured, made⟩ := ensure_at mid _ own opened free
        refine ⟨after, ?_, fun spot => ?_⟩
        · simp only [chain_concat, FileStore.makeUpward, bind, StateT.bind, lost, climbed]
          exact ensured
        · simp only [made, view, inner spot, eq_comm]
          by_cases same : spot = front ++ [name] <;> simp [same]

theorem make_directories (place : Place) (named : Named place)
    (fits : ∀ front, front <+: place → front ≠ [] → Fits front) (clear : disk.Clear place) :
    ∃ after, FileStore.makeDirectories (m := StateM Disk) (ofSteps true place) disk = (.ok (), after) ∧
      ∀ spot, after.node? spot = if spot <+: place then some .directory else disk.node? spot := by
  rw [FileStore.makeDirectories, upward_canonical place named]
  exact make_upward disk place fits clear

theorem make_each (place : Place) (dirs : List Trail)
    (fits : ∀ dir ∈ dirs, dir ≠ [] ∧ Fits (below place dir)) (clear : ∀ dir ∈ dirs, disk.Clear (below place dir)) :
    ∃ after, (each (fun dir => Export.reportedAt (m := StateM Disk) (pathOf (ofSteps true place) dir)
        (FileStore.makeDirectories (pathOf (ofSteps true place) dir))) dirs).run disk = (.ok (), after) ∧
      ∀ spot, after.node? spot =
        if ∃ dir ∈ dirs, spot <+: below place dir then some .directory else disk.node? spot := by
  induction dirs generalizing disk with
  | nil => exact ⟨disk, run_each_nil _ disk, by simp⟩
  | cons dir rest ih =>
      obtain ⟨⟨present, own⟩, others⟩ := List.forall_mem_cons.mp fits
      obtain ⟨free, later⟩ := List.forall_mem_cons.mp clear
      obtain ⟨mid, made, view⟩ := make_directories disk (below place dir) own.named
        (fun front leads => fits_front front _ own leads) free
      rw [← path_of_below place dir present own.named] at made
      have kept : ∀ dir ∈ rest, mid.Clear (below place dir) := by
        intro other listed spot leads content
        rw [view]
        split
        · simp
        · exact later other listed spot leads content
      obtain ⟨after, ran, views⟩ := ih mid others kept
      refine ⟨after, ?_, fun spot => ?_⟩
      · rw [run_each_ok _ dir rest disk mid (run_reported_ok _ _ disk mid () made), ran]
      · rw [views, view]
        by_cases first : spot <+: below place dir <;> simp [first]

end Disk

end ClientPackager
