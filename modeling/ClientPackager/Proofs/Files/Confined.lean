import ClientPackager.Proofs.Disk.Trail

set_option autoImplicit false

namespace ClientPackager

namespace FilePath

theorem relative_no_lead (path : FilePath) : DiskPath.isAbsolute path.relative = false := by
  cases shape : path.segments with
  | nil => rw [relative, shape]; rfl
  | cons segment rest =>
      have valid := List.all_eq_true.mp path.valid segment (by simp [shape])
      cases rest with
      | nil => simpa [relative, shape] using DiskPath.segment_relative segment [] valid
      | cons next later =>
          rw [relative, shape, List.intercalate_cons_cons, List.append_assoc]
          exact DiskPath.segment_relative segment _ valid

end FilePath

namespace FileTree

theorem tree_confined (bundle : Bundle) (base : String) (tree : FileTree)
    (built : (Draft.ofBundle bundle base).build = .ok tree) (path : FilePath) (listed : path ∈ tree.paths) :
    (∃ dir, FilePath.parse (FilePath.rooted base) = .ok dir ∧ (path = dir ∨ path.isUnder dir = true)) ∧
    DiskPath.isAbsolute path.relative = false ∧
    (path ≠ FilePath.root → ∀ piece ∈ Text.splitOn '/' path.relative, piece ≠ "" ∧ piece ≠ "..") ∧
    ∀ out, DiskPath.isAbsolute out = true →
      DiskPath.isAbsolute (Export.pathOf out path.segments) = true ∧
      ∃ below, DiskPath.steps (Export.pathOf out path.segments) = DiskPath.steps out ++ below ∧ ".." ∉ below := by
  obtain ⟨file, _, parsed⟩ := Draft.built_paths bundle base tree built path listed
  refine ⟨FilePath.parse_below base file.path path parsed, FilePath.relative_no_lead path, ?_, ?_⟩
  · intro below piece member
    have present : path.segments ≠ [] := by
      intro none
      apply below
      cases path
      simp_all [FilePath.root]
    rw [Text.splitOn, FilePath.relative_pieces path present] at member
    obtain ⟨segment, inside, rfl⟩ := List.mem_map.mp member
    obtain ⟨filled, up, _⟩ := FilePath.segment_valid path segment inside
    exact ⟨by simpa using filled, by simpa [← String.toList_inj] using up⟩
  · intro out absolute
    obtain ⟨inside, steps⟩ := DiskPath.steps_path_of out path absolute
    refine ⟨inside, _, steps, ?_⟩
    intro up
    obtain ⟨segment, kept, same⟩ := List.mem_map.mp up
    have member := (List.mem_filter.mp kept).1
    exact (FilePath.segment_valid path segment member).2.1 (by simpa [← String.toList_inj] using same)

-- One file has the name of the base itself, and one a dot on its way.
def cellar : Bundle := ⟨[⟨"Clock/index.js", "tick"⟩, ⟨"./notes//", "tock"⟩, ⟨"", "base"⟩]⟩

def cellarNotes : FilePath := ⟨["srv".toList, "npm".toList, ".".toList, "notes".toList], by decide⟩

theorem cellar_confined : ∃ tree, (Draft.ofBundle cellar "/srv/npm").build = .ok tree ∧ cellarNotes ∈ tree.paths ∧
    (∃ dir, FilePath.parse "/srv/npm" = .ok dir ∧ (cellarNotes = dir ∨ cellarNotes.isUnder dir = true)) ∧
    DiskPath.isAbsolute "/var/./out/" = true ∧
    ∃ below, DiskPath.steps (Export.pathOf "/var/./out/" cellarNotes.segments) =
      DiskPath.steps "/var/./out/" ++ below ∧ ".." ∉ below := by
  have built : (Draft.ofBundle cellar "/srv/npm").build = .ok (Draft.ofBundle cellar "/srv/npm").tree := rfl
  have listed : cellarNotes ∈ (Draft.ofBundle cellar "/srv/npm").tree.paths := by decide
  obtain ⟨inside, _, _, onDisk⟩ := tree_confined cellar "/srv/npm" _ built cellarNotes listed
  exact ⟨_, built, listed, inside, by decide, (onDisk "/var/./out/" (by decide)).2⟩

end FileTree

end ClientPackager
