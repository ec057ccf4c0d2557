import ClientPackager.Proofs.Disk.Exportable

set_option autoImplicit false

namespace ClientPackager

open DiskPath (ofSteps)

section Settling

variable (place : Place) (files : List TreeFile) (view : Place → Option Node)

-- What no file of a tree goes to is as before, or gone if a file was written
-- there first.
theorem settled_elsewhere (spot : Place) (elsewhere : ∀ file ∈ files, spot ≠ target place file) :
    files.foldl (settle place) view spot = if ∃ file ∈ files, spot = temporary place file then none else view spot := by
  induction files generalizing view with
  | nil => simp
  | cons file rest ih =>
      obtain ⟨first, later⟩ := List.forall_mem_cons.mp elsewhere
      rw [List.foldl_cons, ih _ later, settle, if_neg first]
      by_cases beside : spot = temporary place file <;> simp [beside]

-- A file that is in its place is lost again if a later one is written there
-- first.
theorem settled_files (distinct : (files.map (target place)).Nodup) :
    (∀ file ∈ files, files.foldl (settle place) view (target place file) = some (.file (.text file.content))) ↔
      files.Pairwise fun earlier later => temporary place later ≠ target place earlier := by
  induction files generalizing view with
  | nil => simp
  | cons file rest ih =>
      obtain ⟨fresh, others⟩ := List.nodup_cons.mp distinct
      have elsewhere : ∀ later ∈ rest, target place file ≠ target place later := fun later listed same =>
        fresh (same ▸ List.mem_map_of_mem listed)
      have first : (file :: rest).foldl (settle place) view (target place file) = some (.file (.text file.content)) ↔
          ∀ later ∈ rest, temporary place later ≠ target place file := by
        rw [List.foldl_cons, settled_elsewhere place rest _ _ elsewhere, settle, if_pos rfl]
        simp [eq_comm]
      rw [List.forall_mem_cons, first, List.pairwise_cons, List.foldl_cons, ih _ others]

end Settling

structure Delivered (disk : Disk) (place : Place) (tree : FileTree) (after : Disk) : Prop where
  written : ∀ file ∈ tree.files.items, after.node? (target place file) = some (.file (.text file.content))
  others : ∀ spot, (∀ file ∈ tree.files.items, spot ≠ target place file) → ∀ content,
    after.node? spot = some (.file content) ↔ disk.node? spot = some (.file content)
  folders : ∀ spot, after.node? spot = some .directory ↔
    Needed place tree spot ∨ disk.node? spot = some .directory

-- Files are written beside their own places first. No directory may be there,
-- no file that the tree does not write itself, and none that it has written.
@[mk_iff]
structure Undisturbed (disk : Disk) (place : Place) (tree : FileTree) : Prop where
  vacant : ∀ file ∈ tree.files.items,
    ¬ Needed place tree (temporary place file) ∧ disk.node? (temporary place file) ≠ some .directory
  spared : ∀ file ∈ tree.files.items, (∀ other ∈ tree.files.items, temporary place file ≠ target place other) →
    disk.Fileless (temporary place file)
  behind : tree.files.items.Pairwise fun earlier later => temporary place later ≠ target place earlier

instance (disk : Disk) (place : Place) (tree : FileTree) : Decidable (Undisturbed disk place tree) :=
  decidable_of_iff _ (undisturbed_iff disk place tree).symm

theorem found_there (disk : Disk) (path : String) (place : Place) (node : Node)
    (found : disk.find path = .ok (place, node)) : disk.node? place = some node := by
  simp only [Disk.find, bind_eq_ok] at found
  obtain ⟨target, _, here⟩ := found
  split at here
  · cases here
  · next held =>
      cases here
      exact held
  · next held =>
      split at here
      · cases here
      · cases here
        exact held

section Outcome

variable (disk : Disk) (place : Place) (tree : FileTree)

theorem targets_distinct : (tree.files.items.map (target place)).Nodup := by
  have injective : Function.Injective fun path : FilePath => below place path.segments := by
    intro first second same
    have equal := below_injective place same
    cases first
    cases second
    simpa using equal
  have mapped := tree.files.distinct.map injective
  rwa [List.map_map] at mapped

variable (mid after : Disk)
  (view : ∀ spot, mid.node? spot = if Needed place tree spot then some .directory else disk.node? spot)

include view

-- A directory is made of a place exactly if no file can be written there first.
theorem vacant_before (file : TreeFile) : mid.node? (temporary place file) ≠ some .directory ↔
    ¬ Needed place tree (temporary place file) ∧ disk.node? (temporary place file) ≠ some .directory := by
  rw [view]
  by_cases needed : Needed place tree (temporary place file) <;> simp [needed]

variable (settled : after.node? = tree.files.items.foldl (settle place) mid.node?)

include settled in
theorem undisturbed_of_delivered (done : Delivered disk place tree after)
    (vacant : ∀ file ∈ tree.files.items, mid.node? (temporary place file) ≠ some .directory) :
    Undisturbed disk place tree where
  vacant file listed := (vacant_before disk place tree mid view file).mp (vacant file listed)
  spared file listed apart content held := by
    have gone := settled_elsewhere place tree.files.items mid.node? _ apart
    rw [if_pos ⟨file, listed, rfl⟩, ← settled] at gone
    have still := (done.others _ apart content).mpr held
    rw [gone] at still
    simp at still
  behind := by
    have written := done.written
    rw [settled] at written
    exact (settled_files place _ _ (targets_distinct place tree)).mp written

variable (able : Exportable disk place tree)

include able

theorem file_before (spot : Place) (content : FileContent) :
    mid.node? spot = some (.file content) ↔ disk.node? spot = some (.file content) := by
  rw [view]
  split
  · next needed =>
      obtain ⟨file, listed, leads⟩ := needed
      exact iff_of_false (by simp) (able.clear file listed spot leads content)
  · rfl

include settled in
theorem delivered_of_undisturbed (calm : Undisturbed disk place tree) : Delivered disk place tree after := by
  have written : ∀ file ∈ tree.files.items, after.node? (target place file) = some (.file (.text file.content)) := by
    rw [settled]
    exact (settled_files place _ _ (targets_distinct place tree)).mpr calm.behind
  have elsewhere (spot : Place) (apart : ∀ file ∈ tree.files.items, spot ≠ target place file) :
      after.node? spot = if ∃ file ∈ tree.files.items, spot = temporary place file then none else mid.node? spot := by
    rw [settled]
    exact settled_elsewhere place _ _ spot apart
  refine ⟨written, fun spot apart content => ?_, fun spot => ?_⟩
  · rw [elsewhere spot apart]
    split
    · next beside =>
        obtain ⟨file, listed, rfl⟩ := beside
        exact iff_of_false (by simp) (calm.spared file listed apart content)
    · exact file_before disk place tree mid view able spot content
  · by_cases apart : ∀ file ∈ tree.files.items, spot ≠ target place file
    · rw [elsewhere spot apart]
      split
      · next beside =>
          obtain ⟨file, listed, rfl⟩ := beside
          have free := calm.vacant file listed
          exact iff_of_false (by simp) fun held => held.elim free.1 free.2
      · rw [view]
        by_cases needed : Needed place tree spot <;> simp [needed]
    · push Not at apart
      obtain ⟨file, listed, rfl⟩ := apart
      rw [written file listed]
      exact iff_of_false (by simp) fun held =>
        held.elim (target_unneeded disk place tree able file listed) (able.solid file listed)

end Outcome

section Runs

variable (disk : Disk) (base : String) (place : Place) (tree : FileTree)
  (found : disk.find base = .ok (place, .directory)) (able : Exportable disk place tree)

include found able

theorem delivered_iff : (∃ after, (Export.run (m := StateM Disk) .standard tree base).run disk = (.ok (), after) ∧
    Delivered disk place tree after) ↔ Undisturbed disk place tree := by
  have there := found_there disk base place .directory found
  obtain ⟨mid, made, view⟩ := folders_made disk place tree able there
  have ready := files_ready disk place tree able there mid view
  rw [export_begun .standard disk base place tree found mid made]
  constructor
  · rintro ⟨after, ran, done⟩
    have vacant : ∀ file ∈ tree.files.items, mid.node? (temporary place file) ≠ some .directory := by
      intro file listed taken
      obtain ⟨failure, stopped, failed⟩ := save_all_refused place _ mid ready ⟨file, listed, taken⟩
      rw [failed] at ran
      cases ran
    obtain ⟨written, saved, settled⟩ := save_all place _ mid ready vacant
    obtain rfl : written = after := by
      rw [saved] at ran
      exact (Prod.mk.inj ran).2
    exact undisturbed_of_delivered disk place tree mid written view settled done vacant
  · intro calm
    have vacant : ∀ file ∈ tree.files.items, mid.node? (temporary place file) ≠ some .directory :=
      fun file listed => (vacant_before disk place tree mid view file).mpr (calm.vacant file listed)
    obtain ⟨after, saved, settled⟩ := save_all place _ mid ready vacant
    exact ⟨after, saved, delivered_of_undisturbed disk place tree mid after view settled able calm⟩

theorem spared_files (options : ExportOptions) (keeps : options.overwrite = false)
    (spare : options.atomic = true → ∀ file ∈ tree.files.items,
      disk.Fileless (target place file) → disk.Fileless (temporary place file)) :
    ∀ spot content, disk.node? spot = some (.file content) →
      ((Export.run (m := StateM Disk) options tree base).run disk).2.node? spot = some (.file content) := by
  have there := found_there disk base place .directory found
  obtain ⟨mid, made, view⟩ := folders_made disk place tree able there
  have ready := files_ready disk place tree able there mid view
  rw [export_begun options disk base place tree found mid made]
  exact save_all_spares place _ mid ready options keeps (fun spot content => disk.node? spot = some (.file content))
    (fun spot content held => (file_before disk place tree mid view able spot content).mpr held) spare

end Runs

-- An export leaves the tree and nothing else, unless something is where a file
-- is written first. With files spared it costs no file, unless one is beside a
-- file that is still missing.
theorem export_delivers_iff_undisturbed (disk : Disk) (base : String) (place : Place) (tree : FileTree)
    (found : disk.find base = .ok (place, .directory)) (able : Exportable disk place tree) :
    ((∃ after, (Export.run (m := StateM Disk) .standard tree base).run disk = (.ok (), after) ∧
      Delivered disk place tree after) ↔ Undisturbed disk place tree) ∧
    ∀ options : ExportOptions, options.overwrite = false →
      (options.atomic = true → ∀ file ∈ tree.files.items,
        disk.Fileless (target place file) → disk.Fileless (temporary place file)) →
      ∀ spot content, disk.node? spot = some (.file content) →
        ((Export.run (m := StateM Disk) options tree base).run disk).2.node? spot = some (.file content) :=
  ⟨delivered_iff disk base place tree found able, spared_files disk base place tree found able⟩

def serviceFile : TreeFile := ⟨⟨["AccountService".toList, "package.json".toList], by decide⟩, "{}"⟩

def scriptFile : TreeFile := ⟨⟨["AccountService".toList, "index.js".toList], by decide⟩, "module.exports = {};"⟩

def serviceTree : FileTree := ⟨⟨[serviceFile, scriptFile], by decide⟩⟩

-- A disk that holds an older package description, and a file beside it.
def olderDisk (beside : String) : Disk :=
  (((Disk.empty ["out"]).put ["out", "AccountService"] .directory).put
    ["out", "AccountService", "package.json"] (.file (.text "original"))).put
    ["out", "AccountService", beside] (.file (.text "kept"))

theorem service_delivered : (∃ after,
    (Export.run (m := StateM Disk) .standard serviceTree "/out").run (olderDisk "notes") = (.ok (), after) ∧
      Delivered (olderDisk "notes") ["out"] serviceTree after) ∧
    ((Export.run (m := StateM Disk) ⟨true, false⟩ serviceTree "/out").run (olderDisk "notes")).2.node?
      ["out", "AccountService", "package.json"] = some (.file (.text "original")) := by
  obtain ⟨delivers, spares⟩ := export_delivers_iff_undisturbed (olderDisk "notes") "/out" ["out"] serviceTree
    (by decide +kernel) (by decide +kernel)
  refine ⟨delivers.mpr (by decide +kernel), spares ⟨true, false⟩ rfl (fun _ => ?_) _ _ (by decide +kernel)⟩
  decide +kernel

theorem draft_lost : (olderDisk "index.js.tmp").find "/out" = .ok (["out"], .directory) ∧
    Exportable (olderDisk "index.js.tmp") ["out"] serviceTree ∧
    (¬ ∃ after, (Export.run (m := StateM Disk) .standard serviceTree "/out").run (olderDisk "index.js.tmp") =
      (.ok (), after) ∧ Delivered (olderDisk "index.js.tmp") ["out"] serviceTree after) ∧
    ((Export.run (m := StateM Disk) ⟨true, false⟩ serviceTree "/out").run (olderDisk "index.js.tmp")).2.node?
      ["out", "AccountService", "index.js.tmp"] = none := by
  have found : (olderDisk "index.js.tmp").find "/out" = .ok (["out"], .directory) := by decide +kernel
  have able : Exportable (olderDisk "index.js.tmp") ["out"] serviceTree := by decide +kernel
  refine ⟨found, able, ?_, ?_⟩
  · rw [delivered_iff _ _ _ _ found able]
    decide +kernel
  · decide +kernel

end ClientPackager
