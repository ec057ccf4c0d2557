import ClientPackager.Files.FilePath
import ClientPackager.Proofs.Text.Pieces

set_option autoImplicit false

namespace ClientPackager.FilePath

theorem segment_rules (piece : List Char) :
    isSegment piece = true ↔ piece ≠ [] ∧ piece ≠ ['.', '.'] ∧ '/' ∉ piece := by
  by_cases parent : piece = ['.', '.']
  · simp [isSegment, defect?, parent]
  · by_cases empty : piece = [] <;> simp [isSegment, defect?, parent, empty]

theorem written_intercalate (segments : List (List Char)) (present : segments ≠ []) :
    written segments = '/' :: ['/'].intercalate segments := by
  induction segments with
  | nil => exact absurd rfl present
  | cons segment rest ih =>
      cases rest with
      | nil => simp [written]
      | cons next later =>
          have below := ih (by simp)
          rw [List.intercalate_cons_cons]
          simp only [written, List.flatMap_cons] at below ⊢
          simp [below]

theorem drop_trailing_clear (front segment : List Char) (present : segment ≠ []) (clear : '/' ∉ segment) :
    Text.dropTrailing '/' (String.ofList (front ++ segment)) = String.ofList (front ++ segment) := by
  obtain ⟨start, last, rfl⟩ := List.eq_nil_or_concat segment |>.resolve_left present
  have other : last ≠ '/' := fun same => clear (by simp [same])
  rw [List.concat_eq_append, ← List.append_assoc]
  exact Text.drop_trailing_kept '/' (front ++ start) last other

-- The slashes of segments are not at the end, unless the last one is empty.
theorem written_kept (segments : List (List Char)) (clear : ∀ segment ∈ segments, '/' ∉ segment)
    (ended : segments.getLast? ≠ some []) :
    Text.dropTrailing '/' (String.ofList (written segments)) = String.ofList (written segments) := by
  rcases List.eq_nil_or_concat segments with rfl | ⟨front, last, rfl⟩
  · rfl
  · have filled : last ≠ [] := fun none => ended (by simp [none])
    have split : written (front.concat last) = written front ++ ['/'] ++ last := by simp [written]
    rw [split]
    exact drop_trailing_clear _ last filled (clear last (by simp))

theorem pieces_written (segments : List (List Char)) (present : segments ≠ [])
    (clear : ∀ segment ∈ segments, '/' ∉ segment) : Text.pieces '/' (written segments) = [] :: segments := by
  rw [written_intercalate segments present, Text.pieces, if_pos rfl, Text.pieces_intercalate '/' segments present clear]

theorem segment_valid (path : FilePath) (segment : List Char) (member : segment ∈ path.segments) :
    segment ≠ [] ∧ segment ≠ ['.', '.'] ∧ '/' ∉ segment :=
  (segment_rules segment).mp (List.all_eq_true.mp path.valid segment member)

theorem segments_clear (path : FilePath) : ∀ segment ∈ path.segments, '/' ∉ segment :=
  fun segment member => (segment_valid path segment member).2.2

theorem text_pieces (path : FilePath) (below : path.segments ≠ []) :
    Text.pieces '/' (Text.dropTrailing '/' path.text).toList = [] :: path.segments := by
  have text : path.text = String.ofList (written path.segments) := by
    rw [FilePath.text]
    split
    · next root => exact absurd root below
    · rfl
  have ended : path.segments.getLast? ≠ some [] := fun bare =>
    (segment_valid path [] (List.mem_of_getLast? bare)).1 rfl
  rw [text, written_kept _ (segments_clear path) ended, String.toList_ofList,
    pieces_written _ below (segments_clear path)]

theorem parse_pieces (raw : String) (path : FilePath) (leading : Text.hasLeading "/" raw = true)
    (pieces : (Text.pieces '/' (Text.dropTrailing '/' raw).toList).drop 1 = path.segments) : parse raw = .ok path := by
  have clean : path.segments.findSome? defect? = none := by
    rw [List.findSome?_eq_none_iff]
    intro segment member
    obtain ⟨present, below, _⟩ := segment_valid path segment member
    simp [defect?, present, below]
  simp only [parse, if_pos leading]
  split
  · next defect found =>
      rw [pieces, clean] at found
      simp at found
  · simp only [pieces]

theorem parse_text (path : FilePath) : parse path.text = .ok path := by
  by_cases root : path.segments = []
  · have text : path.text = "/" := by rw [FilePath.text, root]
    rw [text]
    exact parse_pieces "/" path (by decide) (by rw [root]; decide)
  · obtain ⟨first, later, shape⟩ := List.exists_cons_of_ne_nil root
    apply parse_pieces
    · simp [Text.hasLeading, FilePath.text, shape, written]
    · rw [text_pieces path root, List.drop_one, List.tail_cons]

theorem parse_segments (raw : String) (path : FilePath) (parsed : parse raw = .ok path) :
    Text.hasLeading "/" raw = true ∧ path.segments = (Text.pieces '/' (Text.dropTrailing '/' raw).toList).drop 1 := by
  simp only [parse] at parsed
  split at parsed
  · next leading =>
      split at parsed
      · simp at parsed
      · exact ⟨leading, by rw [← Except.ok.inj parsed]⟩
  · simp at parsed

theorem segments_injective (path other : FilePath) (same : path.segments = other.segments) : path = other := by
  cases path
  cases other
  simpa using same

theorem is_under_append (path dir : FilePath) (below : List (List Char)) (deeper : below ≠ [])
    (shape : path.segments = dir.segments ++ below) : path.isUnder dir = true := by
  have longer := List.length_pos_iff.mpr deeper
  simp [isUnder, shape, longer]

-- A relative path is the segments again.
theorem relative_pieces (path : FilePath) (below : path.segments ≠ []) :
    Text.pieces '/' path.relative.toList = path.segments := by
  rw [relative, String.toList_ofList]
  exact Text.pieces_intercalate '/' path.segments below (segments_clear path)

end ClientPackager.FilePath
