import ClientPackager.Proofs.Disk.Directories

set_option autoImplicit false

namespace ClientPackager

open DiskPath (ofSteps)

-- Where a file of a tree goes, and where it is written first.
def target (place : Place) (file : TreeFile) : Place := below place file.path.segments

def temporary (place : Place) (file : TreeFile) : Place := below place (aside file.path.segments)

def folder (place : Place) (file : TreeFile) : Place := below place file.path.segments.dropLast

-- What stands at each place once a file has been moved to its own.
def settle (place : Place) (view : Place → Option Node) (file : TreeFile) : Place → Option Node := fun spot =>
  if spot = target place file then some (.file (.text file.content))
  else if spot = temporary place file then none
  else view spot

-- A file and the file beside it have names in one directory.
theorem siblings (place : Place) (file : TreeFile) (present : file.path.segments ≠ []) :
    ∃ name, target place file = folder place file ++ [name] ∧
      temporary place file = folder place file ++ [name ++ ".tmp"] := by
  obtain ⟨front, last, shape⟩ := (List.eq_nil_or_concat file.path.segments).resolve_left present
  rw [List.concat_eq_append] at shape
  refine ⟨String.ofList last, ?_, ?_⟩
  · rw [target, folder, shape, List.dropLast_concat, below_concat]
  · rw [temporary, folder, shape, aside_concat, List.dropLast_concat, below_concat, suffixed_name]

theorem temporary_apart (place : Place) (file : TreeFile) (present : file.path.segments ≠ []) :
    target place file ≠ temporary place file := by
  obtain ⟨name, own, beside⟩ := siblings place file present
  rw [own, beside]
  intro same
  have equal : name = name ++ ".tmp" := by simpa using same
  exact absurd (congrArg String.length equal) (by simp)

namespace Disk

variable (disk : Disk)

theorem reachable_concat (front : Place) (name : String) :
    disk.Reachable (front ++ [name]) ↔ ∀ spot, spot <+: front → disk.node? spot = some .directory := by
  constructor
  · intro reach spot leads
    apply reach spot (leads.trans (List.prefix_append _ _))
    rintro rfl
    exact absurd leads.length_le (by simp)
  · intro opened spot leads apart
    exact opened spot ((List.prefix_concat_iff.mp leads).resolve_left apart)

-- Directories stay, whatever is put where there is none.
theorem reach_put (spot place : Place) (node : Node) (solid : disk.node? spot ≠ some .directory)
    (reach : disk.Reachable place) : (disk.put spot node).Reachable place := by
  intro front leads apart
  have here := reach front leads apart
  have other : spot ≠ front := fun same => solid (same ▸ here)
  rw [node_put disk spot node front (not_root disk spot solid), if_neg other, here]

structure Ready (place : Place) (file : TreeFile) : Prop where
  present : file.path.segments ≠ []
  fits : Fits (target place file)
  tmpFits : Fits (temporary place file)
  opened : ∀ spot, spot <+: folder place file → disk.node? spot = some .directory
  solid : disk.node? (target place file) ≠ some .directory

variable (place : Place) (file : TreeFile) (ready : disk.Ready place file)

include ready

theorem target_path : Export.pathOf (ofSteps true place) file.path.segments = ofSteps true (target place file) :=
  path_of_below place _ ready.present ready.fits.named

theorem temporary_path_of :
    Export.temporaryPath (ofSteps true place) file.path.segments = ofSteps true (temporary place file) := by
  rw [temporary_path _ _ ready.present (dotless_of_named place _ ready.fits.named)]
  exact path_of_below place _ (aside_present _ ready.present) ready.tmpFits.named

theorem target_reach : disk.Reachable (target place file) := by
  obtain ⟨name, own, _⟩ := siblings place file ready.present
  rw [own, reachable_concat]
  exact ready.opened

theorem temporary_reach : disk.Reachable (temporary place file) := by
  obtain ⟨name, _, beside⟩ := siblings place file ready.present
  rw [beside, reachable_concat]
  exact ready.opened

-- Only an option that spares files makes it ask for the file first.
theorem save_asks (options : ExportOptions) :
    (Export.save (m := StateM Disk) options (ofSteps true place) file).run disk =
      if (!options.overwrite && (disk.node? (target place file)).isSome) = true then (.ok (), disk)
      else (Export.save (m := StateM Disk) ⟨options.atomic, true⟩ (ofSteps true place) file).run disk := by
  obtain ⟨atomic, overwrite⟩ := options
  cases overwrite with
  | true => rfl
  | false =>
      have asked := exists_at disk _ ready.fits (target_reach disk place file ready)
      simp only [Export.save, target_path disk place file ready, Bool.false_eq_true, if_false, Bool.not_false,
        Bool.true_and]
      rw [run_bind_ok _ _ disk disk _ (run_lifted disk disk _ _ asked)]
      cases disk.node? (target place file) <;> rfl

theorem save_direct : ∃ after,
    (Export.save (m := StateM Disk) ⟨false, true⟩ (ofSteps true place) file).run disk = (.ok (), after) ∧
      ∀ spot, after.node? spot =
        if spot = target place file then some (.file (.text file.content)) else disk.node? spot := by
  have written : (FileStore.write (m := StateM Disk) (ofSteps true (target place file)) (.text file.content)) disk =
      (.ok (), disk.put (target place file) (.file (.text file.content))) := by
    simp only [FileStore.write, change, write_at disk _ ready.fits (target_reach disk place file ready),
      if_neg ready.solid]
  refine ⟨disk.put (target place file) (.file (.text file.content)), ?_, fun spot => ?_⟩
  · rw [Export.save, target_path disk place file ready]
    exact run_reported_ok _ _ disk _ () written
  · rw [node_put disk _ _ _ ready.fits.present]
    simp only [eq_comm]

theorem save_steps : (Export.save (m := StateM Disk) .standard (ofSteps true place) file).run disk =
    (do Export.reportedAt (ofSteps true (temporary place file))
          (FileStore.write (ofSteps true (temporary place file)) (.text file.content))
        Export.reportedAt (ofSteps true (target place file))
          (FileStore.rename (ofSteps true (temporary place file)) (ofSteps true (target place file))) :
      ExceptT TreeFault (StateM Disk) Unit).run disk := by
  rw [Export.save, target_path disk place file ready, temporary_path_of disk place file ready]
  rfl

theorem save_written (spare : disk.node? (temporary place file) ≠ some .directory) :
    ∃ after, (Export.save (m := StateM Disk) .standard (ofSteps true place) file).run disk = (.ok (), after) ∧
      after.node? = settle place disk.node? file := by
  let content := FileContent.text file.content
  let mid := disk.put (temporary place file) (.file content)
  let after := (mid.remove (temporary place file)).put (target place file) (.file content)
  have apart := temporary_apart place file ready.present
  have held : mid.node? (temporary place file) = some (.file content) := by
    rw [node_put disk _ _ _ ready.tmpFits.present, if_pos rfl]
  have solid : mid.node? (target place file) ≠ some .directory := by
    rw [node_put disk _ _ _ ready.tmpFits.present, if_neg apart.symm]
    exact ready.solid
  have targetReach := target_reach disk place file ready
  have tmpReach := temporary_reach disk place file ready
  have written : (FileStore.write (m := StateM Disk) (ofSteps true (temporary place file)) content) disk =
      (.ok (), mid) := by
    simp only [FileStore.write, change, write_at disk _ ready.tmpFits tmpReach, if_neg spare]
    rfl
  have moved : (FileStore.rename (m := StateM Disk) (ofSteps true (temporary place file))
      (ofSteps true (target place file))) mid =
        (.ok (), after) := by
    simp only [FileStore.rename, change, rename_at mid _ _ content ready.tmpFits ready.fits
      (reach_put disk _ _ _ spare tmpReach) (reach_put disk _ _ _ spare targetReach) held solid]
    rfl
  refine ⟨after, ?_, ?_⟩
  · rw [save_steps disk place file ready,
      run_bind_ok _ _ disk mid () (run_reported_ok _ _ disk mid () written)]
    exact run_reported_ok _ _ mid after () moved
  · funext spot
    rw [settle, node_put _ _ _ _ ready.fits.present, node_remove _ _ _ ready.tmpFits.present,
      node_put _ _ _ _ ready.tmpFits.present]
    by_cases here : spot = target place file
    · rw [if_pos here, if_pos here.symm]
    · rw [if_neg here, if_neg (Ne.symm here)]
      by_cases beside : spot = temporary place file
      · rw [if_pos beside, if_pos beside.symm]
      · rw [if_neg beside, if_neg (Ne.symm beside), if_neg (Ne.symm beside)]

theorem save_refused (taken : disk.node? (temporary place file) = some .directory) : ∃ failure,
    (Export.save (m := StateM Disk) .standard (ofSteps true place) file).run disk = (.error failure, disk) := by
  have refused : (FileStore.write (m := StateM Disk) (ofSteps true (temporary place file)) (.text file.content)) disk =
      (.error .isADirectory, disk) := by
    simp only [FileStore.write, change,
      write_at disk _ ready.tmpFits (temporary_reach disk place file ready), if_pos taken]
  refine ⟨.disk (ofSteps true (temporary place file)) DiskFault.isADirectory.reason, ?_⟩
  rw [save_steps disk place file ready]
  exact run_bind_error _ _ disk disk _ (run_reported_error _ _ disk disk _ refused)

omit ready in
-- Files come and go; the directories are the same all along.
theorem settle_directory (view : Place → Option Node) (spot : Place)
    (solid : view (target place file) ≠ some .directory) (spare : view (temporary place file) ≠ some .directory) :
    settle place view file spot = some .directory ↔ view spot = some .directory := by
  rw [settle]
  split
  · next here =>
      rw [here]
      exact iff_of_false (by simp) solid
  · split
    · next beside =>
        rw [beside]
        exact iff_of_false (by simp) spare
    · rfl

omit ready in
theorem ready_kept (after : Disk) (other : TreeFile) (alike : ∀ spot, after.node? spot = some .directory ↔
    disk.node? spot = some .directory) (readyOther : disk.Ready place other) : after.Ready place other where
  present := readyOther.present
  fits := readyOther.fits
  tmpFits := readyOther.tmpFits
  opened spot leads := (alike spot).mpr (readyOther.opened spot leads)
  solid taken := readyOther.solid ((alike _).mp taken)

-- What must not change, if no other option lets it: a file that is there
-- already is not written, and one that is not there is written beside no file.
theorem save_spares (options : ExportOptions) (keeps : options.overwrite = false) (kept : Place → FileContent → Prop)
    (held : ∀ spot content, kept spot content → disk.node? spot = some (.file content))
    (spare : options.atomic = true →
      (∀ content, ¬ kept (target place file) content) → ∀ content, ¬ kept (temporary place file) content) :
    ∃ result after, (Export.save (m := StateM Disk) options (ofSteps true place) file).run disk = (result, after) ∧
      (∀ spot, after.node? spot = some .directory ↔ disk.node? spot = some .directory) ∧
      ∀ spot content, kept spot content → after.node? spot = some (.file content) := by
  have asks := save_asks disk place file ready options
  cases there : disk.node? (target place file) with
  | some node =>
      rw [if_pos (by simp [keeps, there])] at asks
      exact ⟨_, disk, asks, fun _ => Iff.rfl, held⟩
  | none =>
      rw [if_neg (by simp [there])] at asks
      have unkept (content : FileContent) : ¬ kept (target place file) content := fun was => by
        have present := held _ _ was
        simp [there] at present
      cases atomic : options.atomic with
      | false =>
          obtain ⟨after, saved, view⟩ := save_direct disk place file ready
          refine ⟨_, after, by rw [asks, atomic, saved], fun spot => ?_, fun spot content was => ?_⟩
          · rw [view]
            split
            · next here => simp [here, there]
            · rfl
          · have away : spot ≠ target place file := fun same => unkept content (same ▸ was)
            rw [view, if_neg away, held spot content was]
      | true =>
          have loose := spare atomic unkept
          by_cases taken : disk.node? (temporary place file) = some .directory
          · obtain ⟨failure, refused⟩ := save_refused disk place file ready taken
            exact ⟨_, disk, by rw [asks, atomic]; exact refused, fun _ => Iff.rfl, held⟩
          · obtain ⟨after, saved, view⟩ := save_written disk place file ready taken
            refine ⟨_, after, by rw [asks, atomic]; exact saved, fun spot => ?_, fun spot content was => ?_⟩
            · rw [view]
              exact settle_directory place file disk.node? spot ready.solid taken
            · have away : spot ≠ target place file := fun same => unkept content (same ▸ was)
              have other : spot ≠ temporary place file := fun same => loose content (same ▸ was)
              rw [view, settle, if_neg away, if_neg other, held spot content was]

end Disk

section Files

variable (place : Place) (files : List TreeFile) (disk : Disk) (ready : ∀ file ∈ files, disk.Ready place file)

include ready

theorem save_all (spare : ∀ file ∈ files, disk.node? (temporary place file) ≠ some .directory) :
    ∃ after, (each (Export.save (m := StateM Disk) .standard (ofSteps true place)) files).run disk = (.ok (), after) ∧
      after.node? = files.foldl (settle place) disk.node? := by
  induction files generalizing disk with
  | nil => exact ⟨disk, rfl, rfl⟩
  | cons file rest ih =>
      obtain ⟨first, later⟩ := List.forall_mem_cons.mp ready
      obtain ⟨here, others⟩ := List.forall_mem_cons.mp spare
      obtain ⟨mid, saved, view⟩ := Disk.save_written disk place file first here
      have alike (spot : Place) : mid.node? spot = some .directory ↔ disk.node? spot = some .directory := by
        rw [view]
        exact Disk.settle_directory place file disk.node? spot first.solid here
      obtain ⟨after, ran, views⟩ := ih mid
        (fun other listed => Disk.ready_kept disk place mid other alike (later other listed))
        fun other listed taken => others other listed ((alike _).mp taken)
      refine ⟨after, ?_, ?_⟩
      · rw [run_each_ok _ file rest disk mid saved, ran]
      · rw [views, view, List.foldl_cons]

theorem save_all_refused (taken : ∃ file ∈ files, disk.node? (temporary place file) = some .directory) :
    ∃ failure after, (each (Export.save (m := StateM Disk) .standard (ofSteps true place)) files).run disk =
      (.error failure, after) := by
  induction files generalizing disk with
  | nil => simp at taken
  | cons file rest ih =>
      obtain ⟨first, later⟩ := List.forall_mem_cons.mp ready
      by_cases here : disk.node? (temporary place file) = some .directory
      · obtain ⟨failure, refused⟩ := Disk.save_refused disk place file first here
        exact ⟨failure, disk, run_each_error _ file rest disk disk failure refused⟩
      · obtain ⟨mid, saved, view⟩ := Disk.save_written disk place file first here
        have alike (spot : Place) : mid.node? spot = some .directory ↔ disk.node? spot = some .directory := by
          rw [view]
          exact Disk.settle_directory place file disk.node? spot first.solid here
        obtain ⟨other, listed, refused⟩ := taken
        have behind : other ∈ rest := by
          rcases List.mem_cons.mp listed with rfl | inside
          · exact absurd refused here
          · exact inside
        obtain ⟨failure, after, ran⟩ := ih mid
          (fun other listed => Disk.ready_kept disk place mid other alike (later other listed))
          ⟨other, behind, (alike _).mpr refused⟩
        exact ⟨failure, after, by rw [run_each_ok _ file rest disk mid saved, ran]⟩

theorem save_all_spares (options : ExportOptions) (keeps : options.overwrite = false)
    (kept : Place → FileContent → Prop)
    (held : ∀ spot content, kept spot content → disk.node? spot = some (.file content))
    (spare : options.atomic = true → ∀ file ∈ files,
      (∀ content, ¬ kept (target place file) content) → ∀ content, ¬ kept (temporary place file) content) :
    ∀ spot content, kept spot content →
      ((each (Export.save (m := StateM Disk) options (ofSteps true place)) files).run disk).2.node? spot =
        some (.file content) := by
  induction files generalizing disk with
  | nil => exact held
  | cons file rest ih =>
      obtain ⟨first, later⟩ := List.forall_mem_cons.mp ready
      obtain ⟨result, mid, saved, alike, still⟩ := Disk.save_spares disk place file first options keeps kept held
        fun atomic => spare atomic file List.mem_cons_self
      cases result with
      | error failure =>
          rw [run_each_error _ file rest disk mid failure saved]
          exact still
      | ok =>
          rw [run_each_ok _ file rest disk mid saved]
          exact ih mid (fun other listed => Disk.ready_kept disk place mid other alike (later other listed)) still
            fun atomic other listed => spare atomic other (List.mem_cons_of_mem file listed)

end Files

end ClientPackager
