import ClientPackager.Files.FileTree
import ClientPackager.Proofs.Files.FilePath

set_option autoImplicit false

namespace ClientPackager

namespace FilePath

-- The base that a text names, the empty one counting as the root.
def rooted (base : String) : String := if base = "" then "/" else base

-- A base with a slash at its end and one without lead to one directory.
theorem directory_stem (base : String) : ∃ stem, (Draft.directory base).toList = stem ++ ['/'] ∧
    ((rooted base).toList = stem ∧ stem ≠ [] ∨ (rooted base).toList = stem ++ ['/']) := by
  by_cases slashed : Text.hasTrailing "/" base = true
  · obtain ⟨stem, shape⟩ := List.isSuffixOf_iff_suffix.mp slashed
    have same : base.toList = stem ++ ['/'] := shape.symm
    have present : base ≠ "" := by
      rintro rfl
      simp at same
    exact ⟨stem, by rw [Draft.directory, if_pos slashed, same], .inr (by rw [rooted, if_neg present, same])⟩
  · by_cases empty : base = ""
    · exact ⟨[], by rw [empty]; rfl, .inr (by rw [rooted, if_pos empty]; rfl)⟩
    · refine ⟨base.toList, by rw [Draft.directory, if_neg slashed]; simp, .inl ⟨by rw [rooted, if_neg empty], ?_⟩⟩
      simpa using empty

theorem pieces_of_stem (stem first : List Char) (outer : List (List Char))
    (shape : Text.pieces '/' stem = first :: outer) (solid : [] ∉ outer) :
    (Text.pieces '/' (Text.dropTrailing '/' (String.ofList stem)).toList).drop 1 = outer := by
  have same : (Text.dropTrailing '/' (String.ofList stem)).toList = stem := by
    rcases List.eq_nil_or_concat stem with rfl | ⟨front, last, rfl⟩
    · rfl
    · have other : last ≠ '/' := by
        rintro rfl
        obtain ⟨piece, later, front_shape⟩ := List.exists_cons_of_ne_nil (Text.pieces_ne_nil '/' front)
        rw [List.concat_eq_append, Text.pieces_concat, front_shape, List.cons_append, List.cons.injEq] at shape
        exact solid (shape.2 ▸ by simp)
      rw [List.concat_eq_append, Text.drop_trailing_kept '/' front last other, String.toList_ofList]
  rw [same, shape, List.drop_one, List.tail_cons]

-- What is left of the name of a file decides: nothing, and it is the base
-- itself; something, and it lies below.
theorem parse_below (base name : String) (path : FilePath) (parsed : parse (Draft.directory base ++ name) = .ok path) :
    ∃ dir, parse (rooted base) = .ok dir ∧ (path = dir ∨ path.isUnder dir = true) := by
  obtain ⟨leading, segments⟩ := parse_segments _ path parsed
  obtain ⟨stem, whole, named⟩ := directory_stem base
  obtain ⟨first, outer, outside⟩ := List.exists_cons_of_ne_nil (Text.pieces_ne_nil '/' stem)
  have chars : (Draft.directory base ++ name).toList = stem ++ '/' :: name.toList := by
    rw [String.toList_append, whole, List.append_assoc, List.singleton_append]
  have absolute : Text.hasLeading "/" (rooted base) = true := by
    rcases named with ⟨same, present⟩ | same
    · obtain ⟨c, later, rfl⟩ := List.exists_cons_of_ne_nil present
      simpa [Text.hasLeading, chars, same, List.isPrefixOf] using leading
    · cases stem with
      | nil => simp [Text.hasLeading, same, List.isPrefixOf]
      | cons c later => simpa [Text.hasLeading, chars, same, List.isPrefixOf] using leading
  have ending : Text.dropTrailing '/' (rooted base) = Text.dropTrailing '/' (String.ofList stem) := by
    rw [← String.ofList_toList (s := rooted base)]
    rcases named with ⟨same, _⟩ | same
    · rw [same]
    · rw [same, Text.drop_trailing_dropped '/' stem ['/'] (by simp)]
  rw [← String.ofList_toList (s := Draft.directory base ++ name), chars] at segments
  obtain ⟨kept, slashes, shape, all, ends⟩ := Text.trailing_shape '/' name.toList
  rcases ends with rfl | ⟨front, last, rfl, other⟩
  · have none : ∀ c ∈ '/' :: name.toList, c = '/' := by simpa [shape] using all
    rw [Text.drop_trailing_dropped '/' stem _ none, ← ending] at segments
    exact ⟨path, parse_pieces _ path absolute segments.symm, .inl rfl⟩
  · have cut : (Text.dropTrailing '/' (String.ofList (stem ++ '/' :: name.toList))).toList =
        stem ++ '/' :: (front ++ [last]) := by
      have split : stem ++ '/' :: name.toList = (stem ++ '/' :: front ++ [last]) ++ slashes := by simp [shape]
      rw [split, Text.drop_trailing_dropped '/' _ slashes all, Text.drop_trailing_kept '/' _ last other,
        String.toList_ofList]
      simp
    rw [cut, Text.pieces_cut, outside, List.cons_append, List.drop_one, List.tail_cons] at segments
    have valid : outer.all isSegment = true := by
      have both := path.valid
      rw [segments, List.all_append, Bool.and_eq_true] at both
      exact both.1
    have solid : [] ∉ outer := fun member =>
      (segment_valid path [] (segments ▸ List.mem_append_left _ member)).1 rfl
    refine ⟨⟨outer, valid⟩, ?_, .inr (is_under_append path _ _ (Text.pieces_ne_nil '/' _) segments)⟩
    apply parse_pieces _ _ absolute
    rw [ending]
    exact pieces_of_stem stem first outer outside solid

end FilePath

namespace Draft

theorem paths_add (draft : Draft) (raw content : String) (path : FilePath)
    (member : path ∈ (draft.add raw content).tree.paths) : path ∈ draft.tree.paths ∨ FilePath.parse raw = .ok path := by
  simp only [add, FileTree.add] at member
  cases parsed : FilePath.parse raw with
  | error fault => exact .inl (by simpa [parsed, bind, Except.bind] using member)
  | ok accepted =>
      have grown : path ∈ (Keyed.replaceOrAppend TreeFile.path ⟨accepted, content⟩ draft.tree.files.items).map
          TreeFile.path := by
        simp only [parsed, bind, Except.bind, pure, Except.pure] at member
        exact member
      rw [Keyed.map_replaceOrAppend] at grown
      split at grown
      · exact .inl grown
      · rcases List.mem_append.mp grown with old | last
        · exact .inl old
        · exact .inr (by rw [List.mem_singleton.mp last])

theorem paths_add_all (draft : Draft) (files : List (String × String)) (path : FilePath)
    (member : path ∈ (draft.addAll files).tree.paths) :
    path ∈ draft.tree.paths ∨ ∃ file ∈ files, FilePath.parse file.1 = .ok path := by
  induction files generalizing draft with
  | nil => exact .inl member
  | cons file rest ih =>
      rcases ih (draft.add file.1 file.2) member with before | ⟨later, listed, parsed⟩
      · rcases paths_add draft file.1 file.2 path before with old | here
        · exact .inl old
        · exact .inr ⟨file, List.mem_cons_self, here⟩
      · exact .inr ⟨later, List.mem_cons_of_mem file listed, parsed⟩

theorem built_paths (bundle : Bundle) (base : String) (tree : FileTree)
    (built : (ofBundle bundle base).build = .ok tree) (path : FilePath) (listed : path ∈ tree.paths) :
    ∃ file ∈ bundle.files, FilePath.parse (directory base ++ file.path) = .ok path := by
  have same : (ofBundle bundle base).tree = tree := by
    rw [build] at built
    split at built
    · exact Except.ok.inj built
    · simp at built
  rw [← same] at listed
  rcases paths_add_all empty _ path listed with none | ⟨pair, member, parsed⟩
  · simp [empty, FileTree.empty, FileTree.paths, Keyed.empty] at none
  · obtain ⟨file, inside, rfl⟩ := List.mem_map.mp member
    exact ⟨file, inside, parsed⟩

end Draft

end ClientPackager
