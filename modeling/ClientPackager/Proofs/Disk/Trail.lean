import ClientPackager.Disk.Export
import ClientPackager.Proofs.Files.Base

set_option autoImplicit false

namespace ClientPackager.DiskPath

-- What the steps of an absolute path are, as characters.
def namesOf (cs : List Char) : List (List Char) :=
  (Text.pieces '/' cs).filter fun piece => piece ≠ [] && !Export.isDot piece

theorem steps_absolute (path : String) (absolute : isAbsolute path = true) :
    steps path = (namesOf path.toList).map String.ofList := by
  have pieces : ((Text.splitOn '/' path).filter (· ≠ "")).filter (· ≠ ".") =
      (namesOf path.toList).map String.ofList := by
    simp only [Text.splitOn, namesOf, List.filter_map, List.filter_filter, Function.comp_def]
    congr 1
    apply List.filter_congr
    intro piece _
    simp [Export.isDot, Bool.and_comm, ← String.toList_inj]
  rw [← pieces]
  simp only [steps]
  split
  · next rest shape =>
      rw [if_pos absolute, shape]
      simp
  · rfl

-- The pieces of a path, dots among them.
def filledOf (cs : List Char) : List (List Char) := (Text.pieces '/' cs).filter (· ≠ [])

theorem names_plain (cs : List Char) : namesOf cs = Export.plain (filledOf cs) := by
  rw [namesOf, filledOf, Export.plain, List.filter_filter]
  apply List.filter_congr
  simp [Bool.and_comm]

theorem filled_cut (front rest : List Char) : filledOf (front ++ '/' :: rest) = filledOf front ++ filledOf rest := by
  rw [filledOf, Text.pieces_cut, List.filter_append]
  rfl

theorem filled_segment (segment : List Char) (valid : FilePath.isSegment segment = true) :
    filledOf segment = [segment] := by
  obtain ⟨filled, _, clear⟩ := (FilePath.segment_rules segment).mp valid
  simp [filledOf, Text.pieces_clear '/' segment clear, filled]

theorem absolute_ne_empty (path : String) (absolute : isAbsolute path = true) : path ≠ "" := by
  rintro rfl
  simp [isAbsolute, Text.hasLeading] at absolute

-- The separator that joining puts in is there already if the directory ends
-- in one.
theorem filled_join (dir name : String) (absolute : isAbsolute dir = true) (relative : isAbsolute name = false) :
    isAbsolute (join dir name) = true ∧ filledOf (join dir name).toList = filledOf dir.toList ++ filledOf name.toList := by
  have present := absolute_ne_empty dir absolute
  have joined : join dir name = Draft.directory dir ++ name := by
    by_cases slashed : Text.hasTrailing "/" dir = true <;> simp [join, Draft.directory, relative, present, slashed]
  obtain ⟨stem, whole, named⟩ := FilePath.directory_stem dir
  rw [FilePath.rooted, if_neg present] at named
  have stems : filledOf dir.toList = filledOf stem := by
    rcases named with ⟨same, _⟩ | same
    · rw [same]
    · rw [same, filled_cut]
      simp [filledOf, Text.pieces]
  have chars : (join dir name).toList = stem ++ '/' :: name.toList := by
    rw [joined, String.toList_append, whole, List.append_assoc, List.singleton_append]
  refine ⟨?_, by rw [chars, filled_cut, stems]⟩
  rw [isAbsolute, Text.hasLeading] at absolute ⊢
  rw [chars]
  cases stem with
  | nil => rfl
  | cons c later => rcases named with ⟨same, _⟩ | same <;> simpa [same, List.isPrefixOf] using absolute

theorem segment_relative (segment rest : List Char) (valid : FilePath.isSegment segment = true) :
    isAbsolute (String.ofList (segment ++ rest)) = false := by
  obtain ⟨filled, _, clear⟩ := (FilePath.segment_rules segment).mp valid
  obtain ⟨c, later, rfl⟩ := List.exists_cons_of_ne_nil filled
  have other : '/' ≠ c := fun same => clear (same ▸ List.mem_cons_self)
  simp [isAbsolute, Text.hasLeading, List.isPrefixOf, other]

theorem filled_trail (dir : String) (trail : Export.Trail) (absolute : isAbsolute dir = true)
    (valid : ∀ segment ∈ trail, FilePath.isSegment segment = true) :
    let below := trail.foldl (fun dir segment => join dir (String.ofList segment)) dir
    isAbsolute below = true ∧ filledOf below.toList = filledOf dir.toList ++ trail := by
  induction trail generalizing dir with
  | nil => exact ⟨absolute, by simp⟩
  | cons segment rest ih =>
      have first := valid segment List.mem_cons_self
      have relative : isAbsolute (String.ofList segment) = false := by
        simpa using segment_relative segment [] first
      obtain ⟨inside, names⟩ := filled_join dir (String.ofList segment) absolute relative
      obtain ⟨below, all⟩ := ih (join dir (String.ofList segment)) inside fun later member =>
        valid later (List.mem_cons_of_mem segment member)
      refine ⟨below, ?_⟩
      rw [List.foldl_cons, all, names, String.toList_ofList, filled_segment segment first]
      simp

theorem filled_path_of (out : String) (path : FilePath) (absolute : isAbsolute out = true) :
    isAbsolute (Export.pathOf out path.segments) = true ∧
      filledOf (Export.pathOf out path.segments).toList = filledOf out.toList ++ path.segments := by
  have valid := List.all_eq_true.mp path.valid
  cases shape : path.segments with
  | nil => exact filled_join out "" absolute rfl
  | cons segment rest => exact filled_trail out (segment :: rest) absolute (shape ▸ valid)

theorem steps_path_of (out : String) (path : FilePath) (absolute : isAbsolute out = true) :
    isAbsolute (Export.pathOf out path.segments) = true ∧
      steps (Export.pathOf out path.segments) = steps out ++ (Export.plain path.segments).map String.ofList := by
  obtain ⟨below, filled⟩ := filled_path_of out path absolute
  rw [steps_absolute _ below, steps_absolute out absolute, names_plain, names_plain, filled, Export.plain,
    List.filter_append, List.map_append]
  exact ⟨below, rfl⟩

end ClientPackager.DiskPath
