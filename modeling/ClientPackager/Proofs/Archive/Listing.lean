import ClientPackager.Archive.Stream
import ClientPackager.Proofs.Archive.StoredName
import ClientPackager.Proofs.Files.FilePath
import ClientPackager.Proofs.Lookup

set_option autoImplicit false

namespace ClientPackager.Archive

theorem path_of_clean (raw : String) (clean : Clean raw.toList) :
    ∃ path : FilePath, "/" ++ raw = path.text ∧ path.relative = raw := by
  have present := Text.pieces_ne_nil '/' raw.toList
  have valid : (Text.pieces '/' raw.toList).all FilePath.isSegment = true := by
    rw [List.all_eq_true]
    intro piece member
    obtain ⟨filled, _, below⟩ := clean.segments piece member
    exact (FilePath.segment_rules piece).mpr ⟨filled, below, FilePath.not_mem_of_mem_pieces member⟩
  refine ⟨⟨Text.pieces '/' raw.toList, valid⟩, ?_, ?_⟩
  · rw [FilePath.text]
    split
    · next root => exact absurd root present
    · rw [FilePath.written_intercalate _ present, Text.intercalate_pieces, ← String.toList_inj]
      simp
  · rw [FilePath.relative, Text.intercalate_pieces, String.ofList_toList]

-- The files of a tree under their paths without the slash in front.
def listed (tree : FileTree) : List PackageFile :=
  tree.files.items.map fun file => ⟨file.path.relative, file.content⟩

theorem listed_added (draft : Draft) (file : PackageFile) (clean : Clean file.path.toList)
    (new : file.path ∉ (listed draft.tree).map PackageFile.path) :
    (draft.add ("/" ++ file.path) file.content).faults = draft.faults ∧
      listed (draft.add ("/" ++ file.path) file.content).tree = listed draft.tree ++ [file] := by
  obtain ⟨path, named, relative⟩ := path_of_clean file.path clean
  have added : draft.tree.add ("/" ++ file.path) file.content = .ok (draft.tree.insert path file.content) := by
    simp only [FileTree.add, named, FilePath.parse_text]
    rfl
  have other : path ∉ draft.tree.files.items.map TreeFile.path := by
    intro member
    obtain ⟨old, held, same⟩ := List.mem_map.mp member
    apply new
    rw [listed, List.map_map, ← relative, ← same]
    exact List.mem_map_of_mem held
  simp only [Draft.add, added, true_and]
  rw [listed, FileTree.insert, Keyed.insert]
  simp only [Keyed.append_new TreeFile.path ⟨path, file.content⟩ _ other, List.map_append, List.map_cons,
    List.map_nil, relative]
  rfl

theorem listed_all (draft : Draft) (files : List PackageFile) (clean : ∀ file ∈ files, Clean file.path.toList)
    (distinct : ((listed draft.tree ++ files).map PackageFile.path).Nodup) :
    let filled := draft.addAll (files.map fun file => ("/" ++ file.path, file.content))
    filled.faults = draft.faults ∧ listed filled.tree = listed draft.tree ++ files := by
  induction files generalizing draft with
  | nil => simp [Draft.addAll]
  | cons file rest ih =>
      have new : file.path ∉ (listed draft.tree).map PackageFile.path := by
        rw [List.map_append, List.nodup_append] at distinct
        exact fun member => distinct.2.2 _ member _ (by simp) rfl
      obtain ⟨faults, added⟩ := listed_added draft file (clean file List.mem_cons_self) new
      have below := ih (draft.add ("/" ++ file.path) file.content)
        (fun other member => clean other (List.mem_cons_of_mem file member)) (by rw [added]; simpa using distinct)
      rw [added, faults] at below
      simpa [Draft.addAll] using below

theorem build_lists (bundle : Bundle) (distinct : (bundle.files.map PackageFile.path).Nodup)
    (clean : ∀ file ∈ bundle.files, Clean file.path.toList) :
    ∃ tree, (Draft.ofBundle bundle "/").build = .ok tree ∧ listed tree = bundle.files := by
  have base : Draft.directory "/" = "/" := by decide
  obtain ⟨faults, all⟩ := listed_all Draft.empty bundle.files clean distinct
  refine ⟨(Draft.ofBundle bundle "/").tree, ?_, ?_⟩
  · rw [Draft.build, Draft.ofBundle, base, faults]
    rfl
  · rw [Draft.ofBundle, base, all]
    rfl

end ClientPackager.Archive
