import ClientPackager.Proofs.Files.Normalised

set_option autoImplicit false

namespace ClientPackager.FilePath

-- Where taking the parent a number of times leads, if there is one each time.
def ancestor? : Nat → FilePath → Option FilePath
  | 0, path => some path
  | n + 1, path => path.parent?.bind (ancestor? n)

section Segments

variable (path dir : FilePath)

theorem is_under_iff_segments :
    path.isUnder dir = true ↔ ∃ below, below ≠ [] ∧ path.segments = dir.segments ++ below := by
  constructor
  · intro under
    simp only [isUnder, Bool.and_eq_true, List.isPrefixOf_iff_prefix, decide_eq_true_eq] at under
    obtain ⟨⟨below, shape⟩, longer⟩ := under
    refine ⟨below, ?_, shape.symm⟩
    rintro rfl
    simp [← shape] at longer
  · rintro ⟨below, deeper, shape⟩
    exact is_under_append path dir below deeper shape

theorem parent_iff_segments : path.parent? = some dir ↔ ∃ last, path.segments = dir.segments ++ [last] := by
  by_cases root : path.segments = []
  · simp [parent?, root]
  · rw [parent?, if_neg root, Option.some_inj]
    constructor
    · rintro rfl
      obtain ⟨front, last, shape⟩ := (List.eq_nil_or_concat path.segments).resolve_left root
      exact ⟨last, by simp [shape]⟩
    · rintro ⟨last, shape⟩
      exact segments_injective _ dir (by simp [shape])

-- Each parent drops one segment.
theorem ancestor_iff_segments (n : Nat) :
    ancestor? n path = some dir ↔ ∃ below, below.length = n ∧ path.segments = dir.segments ++ below := by
  induction n generalizing path with
  | zero =>
      simp only [ancestor?, Option.some_inj, List.length_eq_zero_iff, exists_eq_left, List.append_nil]
      exact ⟨congrArg segments, segments_injective path dir⟩
  | succ n ih =>
      simp only [ancestor?, Option.bind_eq_some_iff, ih]
      constructor
      · rintro ⟨mid, held, below, count, inner⟩
        obtain ⟨last, outer⟩ := (parent_iff_segments path mid).mp held
        exact ⟨below ++ [last], by simp [count], by rw [outer, inner, List.append_assoc]⟩
      · rintro ⟨below, count, shape⟩
        obtain ⟨front, last, rfl⟩ := (List.eq_nil_or_concat below).resolve_left (List.ne_nil_of_length_eq_add_one count)
        rw [List.concat_eq_append, ← List.append_assoc] at shape
        have valid : (dir.segments ++ front).all isSegment = true := by
          have whole := path.valid
          rw [shape, List.all_append, Bool.and_eq_true] at whole
          exact whole.1
        exact ⟨⟨dir.segments ++ front, valid⟩, (parent_iff_segments path _).mpr ⟨last, shape⟩, front,
          by simpa using count, rfl⟩

theorem is_under_iff_ancestor : path.isUnder dir = true ↔ ∃ n, ancestor? (n + 1) path = some dir := by
  rw [is_under_iff_segments]
  constructor
  · rintro ⟨below, deeper, shape⟩
    obtain ⟨n, count⟩ := Nat.exists_eq_succ_of_ne_zero (List.length_pos_iff.mpr deeper).ne'
    exact ⟨n, (ancestor_iff_segments path dir (n + 1)).mpr ⟨below, count, shape⟩⟩
  · rintro ⟨n, reached⟩
    obtain ⟨below, count, shape⟩ := (ancestor_iff_segments path dir (n + 1)).mp reached
    exact ⟨below, List.ne_nil_of_length_eq_add_one count, shape⟩

theorem ancestors_end : ancestor? path.segments.length path = some root ∧
    ancestor? (path.segments.length + 1) path = none := by
  refine ⟨(ancestor_iff_segments path root _).mpr ⟨path.segments, rfl, rfl⟩, ?_⟩
  rw [Option.eq_none_iff_forall_ne_some]
  intro dir reached
  obtain ⟨below, count, shape⟩ := (ancestor_iff_segments path dir _).mp reached
  have lengths := congrArg List.length shape
  rw [List.length_append, count] at lengths
  omega

end Segments

section Order

variable (path mid dir : FilePath)

theorem not_under_itself : path.isUnder path = false := by
  simp [isUnder]

theorem under_trans (inner : path.isUnder mid = true) (outer : mid.isUnder dir = true) : path.isUnder dir = true := by
  obtain ⟨below, deeper, shape⟩ := (is_under_iff_segments path mid).mp inner
  obtain ⟨between, _, above⟩ := (is_under_iff_segments mid dir).mp outer
  exact is_under_append path dir (between ++ below) (by simp [deeper]) (by rw [shape, above, List.append_assoc])

theorem under_root_iff : path.isUnder root = true ↔ path ≠ root := by
  have bare : path = root ↔ path.segments = [] := ⟨congrArg segments, segments_injective path root⟩
  rw [is_under_iff_segments, Ne, bare]
  simp [root]

end Order

section Texts

variable (path dir : FilePath)

-- All text behind a directory and a slash will do, whatever slashes it holds.
theorem is_under_iff_text :
    path.isUnder dir = true ↔ ∃ rest, rest ≠ "" ∧ path.text = Draft.directory dir.text ++ rest := by
  rw [is_under_iff_segments]
  constructor
  · rintro ⟨below, deeper, shape⟩
    obtain ⟨first, later, rfl⟩ := List.exists_cons_of_ne_nil deeper
    have filled : first ≠ [] := (segment_valid path first (by simp [shape])).1
    refine ⟨String.ofList (['/'].intercalate (first :: later)), ?_, ?_⟩
    · cases later <;> simp [List.intercalate_cons_cons, filled]
    · apply String.toList_inj.mp
      rw [String.toList_append, directory_chars, text_chars, if_neg (by simp [shape]), shape, String.toList_ofList,
        List.append_assoc, List.singleton_append, ← written_intercalate _ deeper]
      simp [written]
  · rintro ⟨rest, filled, same⟩
    obtain ⟨_, chars⟩ := written_below path dir rest filled same
    refine ⟨Text.pieces '/' rest.toList, Text.pieces_ne_nil '/' _, ?_⟩
    have front := List.length_pos_iff.mpr (Text.pieces_ne_nil '/' (written dir.segments))
    rw [← written_pieces path.segments (segments_clear path), chars, Text.pieces_cut, List.drop_append_of_le_length front,
      written_pieces dir.segments (segments_clear dir)]

variable (sibling : FilePath) (ending : String)

theorem longer_name (below : dir ≠ root) (clear : '/' ∉ ending.toList) (extended : sibling.text = dir.text ++ ending) :
    ∃ front last, dir.segments = front ++ [last] ∧ sibling.segments = front ++ [last ++ ending.toList] := by
  have present : dir.segments ≠ [] := fun none => below (segments_injective dir root none)
  obtain ⟨front, last, shape⟩ := (List.eq_nil_or_concat dir.segments).resolve_left present
  rw [List.concat_eq_append] at shape
  refine ⟨front, last, shape, ?_⟩
  have chars := congrArg String.toList extended
  have filled := (segment_valid dir last (by simp [shape])).1
  have whole : written sibling.segments = written (front ++ [last ++ ending.toList]) := by
    rw [String.toList_append, text_chars, text_chars, if_neg present, shape] at chars
    split at chars
    · have lengths := congrArg List.length chars
      have positive := List.length_pos_iff.mpr filled
      simp [written] at lengths
      omega
    · simpa [written] using chars
  refine written_injective _ _ (segments_clear sibling) ?_ whole
  rw [List.forall_mem_append, List.forall_mem_singleton, List.mem_append, not_or]
  exact ⟨fun segment listed => segments_clear dir segment (by simp [shape, listed]),
    segments_clear dir last (by simp [shape]), clear⟩

theorem longer_name_apart (below : dir ≠ root) (clear : '/' ∉ ending.toList)
    (extended : sibling.text = dir.text ++ ending) : sibling.parent? = dir.parent? ∧ sibling.isUnder dir = false ∧
      (ending ≠ "" → path.isUnder sibling = true → path.isUnder dir = false) := by
  obtain ⟨front, last, own, other⟩ := longer_name dir sibling ending below clear extended
  refine ⟨by simp [parent?, own, other], by simp [isUnder, own, other], fun longer inside => ?_⟩
  by_contra under
  obtain ⟨deep, _, shape⟩ := (is_under_iff_segments path sibling).mp inside
  obtain ⟨also, _, again⟩ := (is_under_iff_segments path dir).mp (by simpa using under)
  rw [shape, own, other, List.append_assoc, List.append_assoc, List.append_cancel_left_eq] at again
  have same : last ++ ending.toList = last := (List.cons.inj again).1
  exact longer (String.toList_eq_nil_iff.mp (by simpa using same))

end Texts

theorem containment_by_parents :
    (∀ path dir : FilePath, (path.isUnder dir = true ↔ ∃ n, ancestor? (n + 1) path = some dir) ∧
      (path.isUnder dir = true ↔ ∃ rest, rest ≠ "" ∧ path.text = Draft.directory dir.text ++ rest) ∧
      (path.parent? = some dir ↔
        ∃ name, name ≠ "" ∧ '/' ∉ name.toList ∧ path.text = Draft.directory dir.text ++ name)) ∧
    (∀ path : FilePath, path.isUnder path = false ∧ (path.isUnder root = true ↔ path ≠ root) ∧
      ∃ n, ancestor? n path = some root ∧ ancestor? (n + 1) path = none) ∧
    (∀ path mid dir : FilePath, path.isUnder mid = true → mid.isUnder dir = true → path.isUnder dir = true) ∧
    ∀ (dir sibling : FilePath) (ending : String), dir ≠ root → '/' ∉ ending.toList →
      sibling.text = dir.text ++ ending → sibling.parent? = dir.parent? ∧ sibling.isUnder dir = false ∧
        ∀ path : FilePath, ending ≠ "" → path.isUnder sibling = true → path.isUnder dir = false := by
  refine ⟨fun path dir => ⟨is_under_iff_ancestor path dir, is_under_iff_text path dir, parent_iff_text path dir⟩,
    fun path => ⟨not_under_itself path, under_root_iff path, path.segments.length, ancestors_end path⟩, under_trans, ?_⟩
  intro dir sibling ending below clear extended
  obtain ⟨level, apart, _⟩ := longer_name_apart dir dir sibling ending below clear extended
  exact ⟨level, apart, fun path => (longer_name_apart path dir sibling ending below clear extended).2.2⟩

def accountScript : FilePath := ⟨["AccountService".toList, "lib".toList, "index.js".toList], by decide⟩

def secondFolder : FilePath := ⟨["AccountServiceV2".toList], by decide⟩

def secondScript : FilePath := ⟨["AccountServiceV2".toList, "index.js".toList], by decide⟩

theorem second_folder_apart : (accountScript.isUnder accountFolder = true ∧ accountFolder.isUnder root = true ∧
      accountScript.isUnder root = true) ∧
    (accountFolder ≠ root ∧ '/' ∉ "V2".toList ∧ secondFolder.text = accountFolder.text ++ "V2" ∧
      secondFolder.isUnder accountFolder = false) ∧
    "V2" ≠ "" ∧ secondScript.isUnder secondFolder = true ∧ secondScript.isUnder accountFolder = false := by
  have inner : accountScript.isUnder accountFolder = true := by decide
  have outer : accountFolder.isUnder root = true := by decide
  have below : accountFolder ≠ root := by decide
  have clear : '/' ∉ "V2".toList := by decide
  have extended : secondFolder.text = accountFolder.text ++ "V2" := by decide
  have inside : secondScript.isUnder secondFolder = true := by decide
  obtain ⟨_, _, through, longer⟩ := containment_by_parents
  obtain ⟨_, apart, deeper⟩ := longer accountFolder secondFolder "V2" below clear extended
  exact ⟨⟨inner, outer, through accountScript accountFolder root inner outer⟩, ⟨below, clear, extended, apart⟩,
    by decide, inside, deeper secondScript (by decide) inside⟩

end ClientPackager.FilePath
