import ClientPackager.Proofs.Archive.StoredName
import ClientPackager.Proofs.Disk.Trail
import ClientPackager.Proofs.Outcome

set_option autoImplicit false

namespace ClientPackager.Archive

-- The names under which a reader finds the files of an archive.
def fileNames : Option (List UInt8) → List Entry → List (List UInt8)
  | _, [] => []
  | given, entry :: rest =>
    match entry.header.kind with
    | .longName => fileNames (some (untilNul entry.data)) rest
    | .regular => given.getD (untilNul entry.header.name) :: fileNames none rest

-- What is left of a name in an archive.
def nameOf (name : List Char) : List Char :=
  if isWhole name then (written name).flatten else name.takeWhile (· ≠ '\x00')

theorem utf8_injective (first second : List Char) (same : utf8 first = utf8 second) : first = second := by
  have bytes (cs : List Char) : (String.ofList cs).toByteArray = (utf8 cs).toByteArray := by
    simp [utf8, String.ofList, List.utf8Encode]
  have texts : String.ofList first = String.ofList second := by
    apply String.toByteArray_inj.mp
    rw [bytes, bytes, same]
  exact String.ofList_injective texts

theorem until_nul_utf8 (name : List Char) :
    untilNul (utf8 name ++ [0]) = utf8 (name.takeWhile (· ≠ '\x00')) := by
  induction name with
  | nil => rfl
  | cons c later ih =>
      by_cases nul : c = '\x00'
      · subst nul
        simp [untilNul, utf8, String.utf8EncodeChar]
      · have kept : ∀ byte ∈ String.utf8EncodeChar c, (decide (byte ≠ 0)) = true := by
          intro byte member
          have other : byte ≠ 0 := fun zero => nul (nul_of_zero_byte c (zero ▸ member))
          simpa using other
        have split : utf8 (c :: later) ++ [0] = String.utf8EncodeChar c ++ (utf8 later ++ [0]) := by simp [utf8]
        rw [split, untilNul, List.takeWhile_append_of_pos kept, ← untilNul, ih,
          List.takeWhile_cons_of_pos (by simpa using nul)]
        simp [utf8]

theorem entries_of_names (options : ArchiveOptions) (name content : String) (entries rest : List Entry)
    (packed : entriesOf options name content = .ok entries) :
    name ≠ "" ∧ fileNames none (entries ++ rest) = utf8 (nameOf name.toList) :: fileNames none rest := by
  rw [entriesOf] at packed
  cases named : EntryName.ofName name.toList with
  | error defect => simp [named] at packed
  | ok entry =>
      obtain ⟨present, shape⟩ := of_name_shape name.toList entry named
      refine ⟨fun none => present (String.toList_eq_nil_iff.mpr none), ?_⟩
      rw [nameOf]
      cases entry with
      | short field =>
          obtain ⟨whole, rfl⟩ := shape
          simp only [named, Except.ok.injEq] at packed
          rw [← packed, if_pos whole, ← until_nul_written _ emptyField whole]
          rfl
      | long all field =>
          obtain ⟨large, rfl, _⟩ := shape
          simp only [named, Except.ok.injEq] at packed
          rw [← packed, if_neg (Bool.eq_false_iff.mp large), ← until_nul_utf8]
          rfl

theorem of_tree_names (options : ArchiveOptions) (tree : FileTree) (archive : Archive)
    (packed : ofTree options tree = .ok archive) :
    (∀ path ∈ tree.paths, path.relative ≠ "") ∧
    fileNames none archive.entries = tree.paths.map fun path => utf8 (nameOf path.relative.toList) := by
  obtain ⟨groups, mapped, same⟩ := (bind_eq_ok _ _ _).mp packed
  obtain rfl : ⟨groups.flatten, options.level⟩ = archive := Except.ok.inj same
  have each := (map_m_eq_ok _ _ _).mp mapped
  rw [FileTree.paths]
  generalize tree.files.items = files at each
  clear mapped same packed
  induction each with
  | nil => exact ⟨by simp, rfl⟩
  | cons first _ ih =>
      obtain ⟨present, names⟩ := entries_of_names options _ _ _ _ first
      rw [List.map_cons, List.forall_mem_cons, List.map_cons, ← ih.2]
      exact ⟨⟨present, ih.1⟩, names⟩

theorem name_of_large (name : List Char) (clean : '\x00' ∉ name) (large : ¬ isWhole name = true) :
    nameOf name = name := by
  rw [nameOf, if_neg large, List.takeWhile_eq_self_iff]
  intro c inside
  have other : c ≠ '\x00' := fun nul => clean (nul ▸ inside)
  simpa using other

section Relative

variable (path : FilePath) (present : path.relative ≠ "")

include present

theorem relative_below : path.segments ≠ [] := by
  intro root
  apply present
  rw [FilePath.relative, root]
  rfl

theorem relative_segments : segments path.relative.toList = Export.plain path.segments := by
  rw [segments, FilePath.relative_pieces path (relative_below path present), Export.plain]
  apply List.filter_congr
  intro segment listed
  have filled := (FilePath.segment_valid path segment listed).1
  simp [Export.isDot, filled]

theorem relative_ending : path.relative.toList.getLast? ≠ some '/' := by
  intro slash
  obtain ⟨front, shape⟩ := List.getLast?_eq_some_iff.mp slash
  have pieces := FilePath.relative_pieces path (relative_below path present)
  rw [shape, Text.pieces_concat] at pieces
  exact (FilePath.segment_valid path [] (by simp [← pieces])).1 rfl

theorem relative_written : written path.relative.toList =
    (if Export.plain path.segments = [] then [['.']] else Export.plain path.segments).intersperse ['/'] := by
  rw [written, relative_segments path present, if_neg (relative_ending path present), List.append_nil]

-- However a name is stored, all that can be lost of it are single dots.
theorem name_segments (clean : '\x00' ∉ path.relative.toList) :
    segments (nameOf path.relative.toList) = Export.plain path.segments := by
  by_cases whole : isWhole path.relative.toList = true
  · rw [nameOf, if_pos whole, relative_written path present]
    split
    · next bare =>
        rw [bare]
        rfl
    · next filled =>
        have clear : ∀ segment ∈ Export.plain path.segments, '/' ∉ segment := fun segment kept =>
          (FilePath.segment_valid path segment (List.mem_filter.mp kept).1).2.2
        have pieces := Text.pieces_intercalate '/' _ filled clear
        rw [List.intercalate] at pieces
        rw [segments, pieces, List.filter_eq_self]
        intro segment kept
        obtain ⟨listed, solid⟩ := List.mem_filter.mp kept
        simpa [Export.isDot, (FilePath.segment_valid path segment listed).1] using solid
  · rw [name_of_large _ clean whole, relative_segments path present]

end Relative

-- Two files have one name if they differ in segments that are a single dot only
-- and a header has room for the name.
theorem same_name_iff (first second : FilePath) (presentFirst : first.relative ≠ "")
    (presentSecond : second.relative ≠ "") (cleanFirst : '\x00' ∉ first.relative.toList)
    (cleanSecond : '\x00' ∉ second.relative.toList) (different : first ≠ second) :
    nameOf first.relative.toList = nameOf second.relative.toList ↔
      Export.plain first.segments = Export.plain second.segments ∧ isWhole first.relative.toList = true := by
  have alike (plain : Export.plain first.segments = Export.plain second.segments) :
      written first.relative.toList = written second.relative.toList := by
    rw [relative_written first presentFirst, relative_written second presentSecond, plain]
  have whole (plain : Export.plain first.segments = Export.plain second.segments) :
      isWhole first.relative.toList = isWhole second.relative.toList := by rw [isWhole, isWhole, alike plain]
  constructor
  · intro same
    have plain := congrArg segments same
    rw [name_segments first presentFirst cleanFirst, name_segments second presentSecond cleanSecond] at plain
    refine ⟨plain, Decidable.byContradiction fun large => different ?_⟩
    rw [name_of_large _ cleanFirst large, name_of_large _ cleanSecond (whole plain ▸ large)] at same
    have segments := congrArg (Text.pieces '/') same
    rw [FilePath.relative_pieces first (relative_below first presentFirst),
      FilePath.relative_pieces second (relative_below second presentSecond)] at segments
    exact FilePath.segments_injective first second segments
  · rintro ⟨plain, fits⟩
    rw [nameOf, nameOf, ← whole plain, if_pos fits, if_pos fits, alike plain]

end ClientPackager.Archive
