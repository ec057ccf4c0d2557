import ClientPackager.Proofs.Server.Export

set_option autoImplicit false

namespace ClientPackager

namespace FilePath

theorem find_defect (pieces : List (List Char)) (down : ['.', '.'] ∉ pieces) :
    pieces.findSome? defect? = if [] ∈ pieces then some .empty else none := by
  induction pieces with
  | nil => rfl
  | cons piece rest ih =>
      rw [List.mem_cons, not_or] at down
      rw [List.findSome?_cons, defect?, if_neg (Ne.symm down.1)]
      by_cases empty : piece = []
      · simp [empty]
      · have apart : [] ≠ piece := Ne.symm empty
        simp [empty, apart, ih down.2]

theorem parse_outcome (raw : String) (leading : Text.hasLeading "/" raw = true) :
    (∃ path, parse raw = .ok path ∧
      ((Text.pieces '/' (Text.dropTrailing '/' raw).toList).drop 1).findSome? defect? = none) ∨
    ∃ defect, parse raw = .error (.invalidSegment raw defect) ∧
      ((Text.pieces '/' (Text.dropTrailing '/' raw).toList).drop 1).findSome? defect? = some defect := by
  simp only [parse, if_pos leading]
  split
  · next defect found => exact .inr ⟨defect, rfl, found⟩
  · next clean => exact .inl ⟨_, rfl, clean⟩

end FilePath

namespace Draft

def refusal? (raw : String) : Option TreeFault :=
  match FilePath.parse raw with
  | .error fault => some fault
  | .ok _ => none

theorem add_all_faults (draft : Draft) (files : List (String × String)) :
    (draft.addAll files).faults = draft.faults ++ files.filterMap fun file => refusal? file.1 := by
  induction files generalizing draft with
  | nil => simp [addAll]
  | cons file rest ih =>
      have one : (draft.add file.1 file.2).faults = draft.faults ++ (refusal? file.1).toList := by
        rw [add, FileTree.add, refusal?]
        cases FilePath.parse file.1 <;> simp [bind, Except.bind, pure, Except.pure]
      have below := ih (draft.add file.1 file.2)
      rw [one] at below
      rw [addAll, List.foldl_cons, ← addAll, below, List.filterMap_cons]
      cases refusal? file.1 <;> simp

-- The first file whose path is refused is complained about.
theorem build_of_bundle (bundle : Bundle) (base : String) : (ofBundle bundle base).build =
    match bundle.files.findSome? fun file => refusal? (directory base ++ file.path) with
    | some fault => .error fault
    | none => .ok (ofBundle bundle base).tree := by
  have faults : (ofBundle bundle base).faults =
      bundle.files.filterMap fun file => refusal? (directory base ++ file.path) := by
    rw [ofBundle, add_all_faults, List.filterMap_map]
    rfl
  rw [← List.head?_filterMap, ← faults, build]
  cases (ofBundle bundle base).faults <;> rfl

-- A directory whose name holds no dot leads nowhere but down, so all that can be
-- wrong with it is an empty piece.
theorem refusal_below (directory name : String) (dotless : '.' ∉ directory.toList)
    (listed : name ∈ [manifestFile, moduleFile, declarationFile]) :
    refusal? ("/" ++ (directory ++ "/" ++ name)) = if [] ∈ Text.pieces '/' directory.toList
      then some (.invalidSegment ("/" ++ (directory ++ "/" ++ name)) .empty) else none := by
  obtain ⟨filled, up, clear⟩ := (FilePath.segment_rules name.toList).mp (Server.file_names_clean name listed).1
  have chars : ("/" ++ (directory ++ "/" ++ name)).toList = '/' :: directory.toList ++ '/' :: name.toList := by
    simp [String.toList_append]
  have pieces : (Text.pieces '/' (Text.dropTrailing '/' ("/" ++ (directory ++ "/" ++ name))).toList).drop 1 =
      Text.pieces '/' directory.toList ++ [name.toList] := by
    have whole := FilePath.drop_trailing_clear ('/' :: directory.toList ++ ['/']) name.toList filled clear
    have split : '/' :: directory.toList ++ ['/'] ++ name.toList = '/' :: directory.toList ++ '/' :: name.toList := by
      simp
    rw [split, ← chars, String.ofList_toList] at whole
    rw [whole, chars, Text.pieces_cut, Text.pieces, if_pos rfl, Text.pieces_clear '/' _ clear]
    rfl
  have down : ['.', '.'] ∉ Text.pieces '/' directory.toList ++ [name.toList] := by
    rw [List.mem_append, not_or, List.mem_singleton]
    exact ⟨fun inside => dotless (Text.mem_of_mem_piece '/' _ _ '.' inside (by simp)), Ne.symm up⟩
  have empties : [] ∈ Text.pieces '/' directory.toList ++ [name.toList] ↔ [] ∈ Text.pieces '/' directory.toList := by
    rw [List.mem_append, List.mem_singleton, or_iff_left (Ne.symm filled)]
  have leading : Text.hasLeading "/" ("/" ++ (directory ++ "/" ++ name)) = true := by
    simp [Text.hasLeading, String.toList_append, List.isPrefixOf]
  rcases FilePath.parse_outcome _ leading with ⟨path, parsed, clean⟩ | ⟨defect, parsed, found⟩
  · rw [pieces, FilePath.find_defect _ down] at clean
    have solid : [] ∉ Text.pieces '/' directory.toList := fun inside => by simp [inside] at clean
    rw [refusal?, parsed, if_neg solid]
  · rw [pieces, FilePath.find_defect _ down] at found
    split at found
    · next inside =>
        cases found
        rw [refusal?, parsed, if_pos (empties.mp inside)]
    · cases found

end Draft

namespace Bundle

theorem generated_first (contract : Contract) (spec : PackageSpec) (bundle : Bundle)
    (generated : generate contract spec = .ok bundle) :
    ∃ content rest, bundle.files = ⟨contract.shortName ++ "/" ++ manifestFile, content⟩ :: rest := by
  obtain ⟨script, _, later⟩ := (bind_eq_ok _ _ _).mp generated
  split at later <;> obtain ⟨declarations, _, same⟩ := (bind_eq_ok _ _ _).mp later <;> cases same <;>
    exact ⟨_, _, rfl⟩

-- The files of a package have places in a tree unless a piece of its short name
-- is empty.
theorem generated_build (contract : Contract) (spec : PackageSpec) (bundle : Bundle)
    (generated : generate contract spec = .ok bundle) : (Draft.ofBundle bundle "/").build =
      if [] ∈ Text.pieces '/' contract.shortName.toList
      then .error (.invalidSegment ("/" ++ (contract.shortName ++ "/" ++ manifestFile)) .empty)
      else .ok (Draft.ofBundle bundle "/").tree := by
  have dotless : '.' ∉ contract.shortName.toList := Text.after_last_clear '.' contract.route.text
  obtain ⟨content, rest, files⟩ := generated_first contract spec bundle generated
  obtain ⟨same, made, named⟩ := generate_files contract spec
  rw [generated] at made
  cases made
  rw [Draft.build_of_bundle]
  have base : Draft.directory "/" = "/" := by decide
  simp only [base]
  by_cases empty : [] ∈ Text.pieces '/' contract.shortName.toList
  · rw [files, List.findSome?_cons, Draft.refusal_below _ _ dotless (by simp), if_pos empty, if_pos empty]
  · have accepted : ∀ file ∈ bundle.files, Draft.refusal? ("/" ++ file.path) = none := by
      intro file listed
      obtain ⟨name, known, located⟩ := named file listed
      rw [located, Draft.refusal_below _ _ dotless known, if_neg empty]
    rw [List.findSome?_eq_none_iff.mpr accepted, if_neg empty]

end Bundle

end ClientPackager
