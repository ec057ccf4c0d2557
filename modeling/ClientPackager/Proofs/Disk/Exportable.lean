import ClientPackager.Proofs.Disk.Collecting
import ClientPackager.Proofs.Disk.Saving

set_option autoImplicit false

namespace ClientPackager

open DiskPath (ofSteps)
open Export (directories pathOf)

-- A disk as a system keeps it: what is there has a name, and is in a directory.
def Sound (disk : Disk) : Prop := ∀ spot node, spot ≠ [] → disk.node? spot = some node →
  Named spot ∧ disk.node? spot.dropLast = some .directory

theorem sound_entries (disk : Disk) : Sound disk ↔ ∀ entry ∈ disk.entries.items, entry.place ≠ [] →
    Named entry.place ∧ disk.node? entry.place.dropLast = some .directory := by
  constructor
  · intro sound entry listed below
    refine sound entry.place entry.node below ?_
    rw [Disk.node?, if_neg below, disk.entries.find_listed entry listed, Option.map_some]
  · intro entries spot node below there
    rw [Disk.node?, if_neg below, Option.map_eq_some_iff] at there
    obtain ⟨entry, found, rfl⟩ := there
    obtain rfl : entry.place = spot := by simpa using List.find?_some found
    exact entries entry (List.mem_of_find?_eq_some found) below

instance : DecidablePred Sound := fun disk => decidable_of_iff _ (sound_entries disk).symm

theorem sound_named (disk : Disk) (place : Place) (sound : Sound disk) (there : disk.node? place = some .directory) :
    Named place := by
  by_cases root : place = []
  · simp [root, Named]
  · exact (sound place _ root there).1

theorem sound_above (disk : Disk) (place : Place) (sound : Sound disk) (there : disk.node? place = some .directory) :
    ∀ front, front <+: place → disk.node? front = some .directory := by
  induction place using List.reverseRecOn with
  | nil =>
      intro front leads
      rwa [List.prefix_nil.mp leads]
  | append_singleton outer name ih =>
      have up := (sound _ _ (by simp) there).2
      rw [List.dropLast_concat] at up
      intro front leads
      rcases List.prefix_concat_iff.mp leads with rfl | inside
      · exact there
      · exact ih up front inside

-- What a system takes for a name and for a path.
@[mk_iff]
structure Writable (place : Place) (trail : Export.Trail) : Prop where
  clean : ∀ segment ∈ trail, '\x00' ∉ segment
  names : ∀ segment ∈ trail, (String.ofList segment).utf8ByteSize ≤ Disk.longestName
  path : (ofSteps true (below place trail)).utf8ByteSize ≤ Disk.longestPath

instance (place : Place) (trail : Export.Trail) : Decidable (Writable place trail) :=
  decidable_of_iff _ (writable_iff place trail).symm

def Needed (place : Place) (tree : FileTree) (spot : Place) : Prop :=
  ∃ file ∈ tree.files.items, spot <+: folder place file

instance (place : Place) (tree : FileTree) : DecidablePred (Needed place tree) := fun spot =>
  inferInstanceAs (Decidable (∃ file ∈ tree.files.items, spot <+: folder place file))

@[mk_iff]
structure Exportable (disk : Disk) (place : Place) (tree : FileTree) : Prop where
  sound : Sound disk
  dotless : ∀ file ∈ tree.files.items, Dotless file.path.segments
  rootless : ∀ file ∈ tree.files.items, file.path.segments ≠ []
  apart : ∀ file ∈ tree.files.items, ∀ other ∈ tree.files.items,
    file.path.segments <+: other.path.segments → file.path = other.path
  clear : ∀ file ∈ tree.files.items, disk.Clear (folder place file)
  solid : ∀ file ∈ tree.files.items, disk.node? (target place file) ≠ some .directory
  writable : ∀ file ∈ tree.files.items, Writable place (aside file.path.segments)

instance (disk : Disk) (place : Place) (tree : FileTree) : Decidable (Exportable disk place tree) :=
  decidable_of_iff _ (exportable_iff disk place tree).symm

theorem named_writable (place : Place) (trail : Export.Trail) (named : Named place)
    (valid : ∀ segment ∈ trail, FilePath.isSegment segment = true) (dotless : Dotless trail)
    (writable : Writable place trail) : Named (below place trail) := by
  refine (named_append _ _).mpr ⟨named, List.forall_mem_map.mpr fun segment listed => ?_⟩
  obtain ⟨filled, below, clear⟩ := (FilePath.segment_rules segment).mp (valid segment listed)
  have solid : segment ≠ ['.'] := by simpa [Export.isDot] using dotless segment listed
  exact {
    present := by simpa using filled
    here := fun same => solid (by simpa using congrArg String.toList same)
    up := fun same => below (by simpa using congrArg String.toList same)
    clear := by simpa using clear
    clean := by simpa using writable.clean segment listed
    short := writable.names segment listed }

theorem suffixed_text (front : Place) (name ending : String) :
    ofSteps true (front ++ [name ++ ending]) = ofSteps true (front ++ [name]) ++ ending := by
  apply String.toList_inj.mp
  rw [String.toList_append, canonical_text, canonical_text, if_neg (by simp), if_neg (by simp)]
  simp [FilePath.written, String.toList_append]

-- What is too long or unclean in a name is so in the longer name beside it.
theorem writable_shorter (place : Place) (front : Export.Trail) (last : List Char)
    (writable : Writable place (front ++ [last ++ ".tmp".toList])) : Writable place (front ++ [last]) := by
  obtain ⟨clean, names, path⟩ := writable
  rw [List.forall_mem_append, List.forall_mem_singleton] at clean names
  refine ⟨?_, ?_, ?_⟩
  · rw [List.forall_mem_append, List.forall_mem_singleton]
    exact ⟨clean.1, fun held => clean.2 (List.mem_append_left _ held)⟩
  · rw [List.forall_mem_append, List.forall_mem_singleton]
    rw [suffixed_name, String.utf8ByteSize_append] at names
    exact ⟨names.1, Nat.le_trans (Nat.le_add_right _ _) names.2⟩
  · rw [below_concat, suffixed_name, suffixed_text, ← below_concat, String.utf8ByteSize_append] at path
    exact Nat.le_trans (Nat.le_add_right _ _) path

theorem suffixed_segment (segment : List Char) (valid : FilePath.isSegment segment = true) :
    FilePath.isSegment (segment ++ ".tmp".toList) = true ∧ Export.isDot (segment ++ ".tmp".toList) = false := by
  obtain ⟨_, _, clear⟩ := (FilePath.segment_rules segment).mp valid
  have longer (short : List Char) (brief : short.length < 4) : segment ++ ".tmp".toList ≠ short := by
    rintro rfl
    exact absurd brief (by rw [List.length_append]; exact Nat.not_lt.mpr (Nat.le_add_left 4 _))
  refine ⟨(FilePath.segment_rules _).mpr ⟨by simp, longer _ (by decide), by simpa using clear⟩, ?_⟩
  exact decide_eq_false (longer _ (by decide))

theorem file_fits (place : Place) (path : FilePath) (named : Named place) (present : path.segments ≠ [])
    (dotless : Dotless path.segments) (writable : Writable place (aside path.segments)) :
    Fits (below place path.segments) ∧ Fits (below place (aside path.segments)) := by
  have valid := List.all_eq_true.mp path.valid
  obtain ⟨front, last, shape⟩ := (List.eq_nil_or_concat path.segments).resolve_left present
  rw [List.concat_eq_append] at shape
  rw [shape] at valid dotless writable ⊢
  rw [aside_concat] at writable ⊢
  have shorter := writable_shorter place front last writable
  obtain ⟨longer, solid⟩ := suffixed_segment last (valid last (by simp))
  have validBeside : ∀ segment ∈ front ++ [last ++ ".tmp".toList], FilePath.isSegment segment = true := by
    rw [List.forall_mem_append, List.forall_mem_singleton] at valid ⊢
    exact ⟨valid.1, longer⟩
  have dotlessBeside : Dotless (front ++ [last ++ ".tmp".toList]) := by
    rw [Dotless, List.forall_mem_append, List.forall_mem_singleton] at dotless ⊢
    exact ⟨dotless.1, solid⟩
  exact ⟨⟨by simp [below], named_writable place _ named valid dotless shorter, shorter.path⟩,
    ⟨by simp [below], named_writable place _ named validBeside dotlessBeside writable, writable.path⟩⟩

theorem below_leads (place : Place) (first second : Export.Trail) :
    below place first <+: below place second ↔ first <+: second := by
  rw [below, below, List.prefix_append_right_inj]
  refine ⟨fun leads => ?_, fun leads => leads.map String.ofList⟩
  simpa [Function.comp_def] using leads.map String.toList

theorem below_injective (place : Place) : Function.Injective (below place) := by
  intro first second same
  have leads := (below_leads place first second).mp (same ▸ List.prefix_rfl)
  exact leads.eq_of_length (by simpa [below] using congrArg List.length same)

-- A file is no directory that another one needs.
theorem target_unneeded (disk : Disk) (place : Place) (tree : FileTree) (able : Exportable disk place tree)
    (file : TreeFile) (listed : file ∈ tree.files.items) : ¬ Needed place tree (target place file) := by
  rintro ⟨other, member, leads⟩
  rw [target, folder, below_leads] at leads
  have same := able.apart file listed other member (leads.trans (List.dropLast_prefix _))
  have bound := leads.length_le
  rw [same, List.length_dropLast] at bound
  have present := List.length_pos_iff.mpr (able.rootless other member)
  omega

section Folders

variable (disk : Disk) (place : Place) (tree : FileTree) (able : Exportable disk place tree)

include able

-- The directories that are made lie below the base, which is there already.
theorem directories_needed :
    (∀ dir ∈ directories tree, dir ≠ [] ∧ ∃ file ∈ tree.files.items, below place dir <+: folder place file) ∧
    ∀ file ∈ tree.files.items, file.path.segments.dropLast ≠ [] → file.path.segments.dropLast ∈ directories tree := by
  have dotless : ∀ path ∈ tree.paths, Dotless path.segments := List.forall_mem_map.mpr able.dotless
  refine ⟨fun dir listed => ?_, fun file listed present => ?_⟩
  · obtain ⟨present, path, held, later, split⟩ := (directories_iff tree dotless dir).mp listed
    obtain ⟨file, member, rfl⟩ := List.mem_map.mp held
    exact ⟨present, file, member, (below_leads place dir _).mpr ⟨later, split⟩⟩
  · exact (directories_iff tree dotless _).mpr ⟨present, file.path, List.mem_map_of_mem listed, List.prefix_rfl⟩

variable (there : disk.node? place = some .directory)

include there

theorem files_fit (file : TreeFile) (listed : file ∈ tree.files.items) :
    Fits (target place file) ∧ Fits (temporary place file) :=
  file_fits place file.path (sound_named disk place able.sound there) (able.rootless file listed)
    (able.dotless file listed) (able.writable file listed)

theorem folders_made : ∃ mid, (each (fun dir => Export.reportedAt (m := StateM Disk) (pathOf (ofSteps true place) dir)
      (FileStore.makeDirectories (pathOf (ofSteps true place) dir))) (directories tree)).run disk = (.ok (), mid) ∧
    ∀ spot, mid.node? spot = if Needed place tree spot then some .directory else disk.node? spot := by
  obtain ⟨inside, reached⟩ := directories_needed disk place tree able
  have fits : ∀ dir ∈ directories tree, dir ≠ [] ∧ Fits (below place dir) := by
    intro dir listed
    obtain ⟨present, file, member, leads⟩ := inside dir listed
    obtain ⟨name, own, _⟩ := siblings place file (able.rootless file member)
    have outer : folder place file <+: target place file := own ▸ List.prefix_append _ _
    exact ⟨present, fits_front _ _ (files_fit disk place tree able there file member).1 (leads.trans outer)
      (by simp [below, present])⟩
  have clear : ∀ dir ∈ directories tree, disk.Clear (below place dir) := by
    intro dir listed front leads
    obtain ⟨_, file, member, inner⟩ := inside dir listed
    exact able.clear file member front (leads.trans inner)
  obtain ⟨mid, made, view⟩ := disk.make_each place (directories tree) fits clear
  refine ⟨mid, made, fun spot => ?_⟩
  rw [view]
  by_cases needed : Needed place tree spot
  · rw [if_pos needed]
    split
    · rfl
    · next unmade =>
        -- Only what leads to the base itself is needed and not made.
        obtain ⟨file, member, leads⟩ := needed
        have flat : file.path.segments.dropLast = [] := by
          by_contra deep
          exact unmade ⟨_, reached file member deep, leads⟩
        rw [folder, flat, below, List.map_nil, List.append_nil] at leads
        exact sound_above disk place able.sound there spot leads
  · rw [if_neg needed, if_neg]
    rintro ⟨dir, listed, leads⟩
    obtain ⟨_, file, member, inner⟩ := inside dir listed
    exact needed ⟨file, member, leads.trans inner⟩

-- Once its directories are made, each file of the tree can be written.
theorem files_ready (mid : Disk)
    (view : ∀ spot, mid.node? spot = if Needed place tree spot then some .directory else disk.node? spot) :
    ∀ file ∈ tree.files.items, mid.Ready place file := by
  intro file listed
  have fits := files_fit disk place tree able there file listed
  refine ⟨able.rootless file listed, fits.1, fits.2, fun spot leads => ?_, ?_⟩
  · rw [view, if_pos ⟨file, listed, leads⟩]
  · rw [view, if_neg (target_unneeded disk place tree able file listed)]
    exact able.solid file listed

end Folders

section Base

variable (options : ExportOptions) (disk : Disk) (base : String) (place : Place) (tree : FileTree)
  (found : disk.find base = .ok (place, .directory))

include found

theorem export_begun (mid : Disk)
    (made : (each (fun dir => Export.reportedAt (m := StateM Disk) (pathOf (ofSteps true place) dir)
      (FileStore.makeDirectories (pathOf (ofSteps true place) dir))) (directories tree)).run disk = (.ok (), mid)) :
    (Export.run (m := StateM Disk) options tree base).run disk =
      (each (Export.save (m := StateM Disk) options (ofSteps true place)) tree.files.items).run mid := by
  have asked : FileStore.pathExists (m := StateM Disk) base disk = (true, disk) := by
    simp only [FileStore.pathExists, FileStore.kind?, bind, StateT.bind, found]
    rfl
  have canonical : FileStore.canonical (m := StateM Disk) base disk = (.ok (ofSteps true place), disk) := by
    simp only [FileStore.canonical, Disk.canonical, found, bind, Except.bind]
    rfl
  rw [Export.run, run_bind_ok _ _ disk disk true (run_lifted disk disk _ _ asked)]
  simp only [Bool.not_true, Bool.false_eq_true, if_false]
  rw [run_bind_ok _ _ disk disk _ (run_reported_ok base _ disk disk _ canonical)]
  rw [each] at made ⊢
  rw [run_bind_ok _ _ disk mid () made, bind_pure_unit]

end Base

end ClientPackager
