import ClientPackager.Files.FileTree
import ClientPackager.Proofs.Files.FilePath

set_option autoImplicit false

namespace ClientPackager.FilePath

theorem text_chars (path : FilePath) :
    path.text.toList = if path.segments = [] then ['/'] else written path.segments := by
  rw [text]
  split
  · next root => rw [if_pos root]; rfl
  · next below => rw [if_neg below, String.toList_ofList]

-- How an absolute text is cut, told without looking for slashes: segments, each
-- after a slash, and slashes that do not count. The last segment is not empty, or
-- its slash would be one of those.
structure Cut (raw : String) (segments : List (List Char)) : Prop where
  absolute : Text.hasLeading "/" raw = true
  spelled : ∃ slashes, raw.toList = written segments ++ slashes ∧ ∀ c ∈ slashes, c = '/'
  clear : ∀ segment ∈ segments, '/' ∉ segment
  ended : segments.getLast? ≠ some []

section Cutting

variable (raw : String) (segments : List (List Char))

theorem cut_trimmed (cut : Cut raw segments) : Text.dropTrailing '/' raw = String.ofList (written segments) := by
  obtain ⟨slashes, shape, all⟩ := cut.spelled
  rw [← String.ofList_toList (s := raw), shape, Text.drop_trailing_dropped '/' _ slashes all,
    written_kept segments cut.clear cut.ended]

theorem written_pieces (clear : ∀ segment ∈ segments, '/' ∉ segment) :
    (Text.pieces '/' (written segments)).drop 1 = segments := by
  by_cases none : segments = []
  · rw [none]
    rfl
  · rw [pieces_written segments none clear, List.drop_one, List.tail_cons]

theorem cut_pieces (cut : Cut raw segments) :
    (Text.pieces '/' (Text.dropTrailing '/' raw).toList).drop 1 = segments := by
  rw [cut_trimmed raw segments cut, String.toList_ofList, written_pieces segments cut.clear]

theorem cut_exists (absolute : Text.hasLeading "/" raw = true) : ∃ segments, Cut raw segments := by
  obtain ⟨kept, slashes, shape, all, ends⟩ := Text.trailing_shape '/' raw.toList
  rcases ends with rfl | ⟨front, last, rfl, other⟩
  · exact ⟨[], absolute, ⟨slashes, shape, all⟩, by simp, by simp⟩
  · obtain ⟨later, leads⟩ : ∃ later, front ++ [last] = '/' :: later := by
      cases front with
      | nil =>
          have same : '/' = last := by simpa [Text.hasLeading, shape, List.isPrefixOf] using absolute
          exact absurd same.symm other
      | cons c more =>
          have same : '/' = c := by simpa [Text.hasLeading, shape, List.isPrefixOf] using absolute
          exact ⟨more ++ [last], by rw [same, List.cons_append]⟩
    have rebuilt : written (Text.pieces '/' later) = front ++ [last] := by
      rw [written_intercalate _ (Text.pieces_ne_nil '/' later), Text.intercalate_pieces, leads]
    refine ⟨Text.pieces '/' later, absolute, ⟨slashes, by rw [rebuilt, shape], all⟩, ?_, ?_⟩
    · exact fun segment listed => not_mem_of_mem_pieces listed
    · -- An empty segment at the end would leave its slash there.
      intro bare
      obtain ⟨before, pieces⟩ := List.getLast?_eq_some_iff.mp bare
      rw [pieces] at rebuilt
      have ending : written before ++ ['/'] = front ++ [last] := by simpa [written] using rebuilt
      exact other (List.append_inj_right' ending rfl |> List.singleton_inj.mp).symm

theorem parse_accepts (path : FilePath) : parse raw = .ok path ↔ Cut raw path.segments := by
  constructor
  · intro parsed
    obtain ⟨absolute, segments⟩ := parse_segments raw path parsed
    obtain ⟨found, cut⟩ := cut_exists raw absolute
    rw [segments, cut_pieces raw found cut]
    exact cut
  · exact fun cut => parse_pieces raw path cut.absolute (cut_pieces raw path.segments cut)

end Cutting

-- An accepted text without the slashes at its end is the text of its path; the
-- root keeps one.
theorem text_of_parse (raw : String) (path : FilePath) (parsed : parse raw = .ok path) :
    path.text = if Text.dropTrailing '/' raw = "" then "/" else Text.dropTrailing '/' raw := by
  rw [cut_trimmed raw _ ((parse_accepts raw path).mp parsed)]
  by_cases root : path.segments = []
  · rw [text, root]
    rfl
  · have present : String.ofList (written path.segments) ≠ "" := by
      rw [written_intercalate _ root]
      simp
    rw [if_neg present]
    apply String.toList_inj.mp
    rw [text_chars, if_neg root, String.toList_ofList]

-- Slashes at the end of an accepted text do not count.
theorem parse_slashes (raw slashes : String) (leading : Text.hasLeading "/" raw = true)
    (all : ∀ c ∈ slashes.toList, c = '/') (path : FilePath) :
    parse (raw ++ slashes) = .ok path ↔ parse raw = .ok path := by
  have same : Text.dropTrailing '/' (raw ++ slashes) = Text.dropTrailing '/' raw := by
    have split : raw ++ slashes = String.ofList (raw.toList ++ slashes.toList) := by simp
    rw [split, Text.drop_trailing_dropped '/' _ _ all, String.ofList_toList]
  have longer : Text.hasLeading "/" (raw ++ slashes) = true := by
    obtain ⟨rest, shape⟩ := List.isPrefixOf_iff_prefix.mp leading
    rw [Text.hasLeading, List.isPrefixOf_iff_prefix, String.toList_append, ← shape, List.append_assoc]
    exact List.prefix_append _ _
  constructor
  · intro parsed
    obtain ⟨_, segments⟩ := parse_segments _ path parsed
    exact parse_pieces raw path leading (by rw [segments, same])
  · intro parsed
    obtain ⟨_, segments⟩ := parse_segments _ path parsed
    exact parse_pieces _ path longer (by rw [segments, same])

theorem written_injective (first second : List (List Char)) (clearFirst : ∀ segment ∈ first, '/' ∉ segment)
    (clearSecond : ∀ segment ∈ second, '/' ∉ segment) (same : written first = written second) : first = second := by
  by_cases none : first = []
  · subst none
    cases second with
    | nil => rfl
    | cons segment rest => simp [written] at same
  · have other : second ≠ [] := by
      rintro rfl
      obtain ⟨segment, rest, rfl⟩ := List.exists_cons_of_ne_nil none
      simp [written] at same
    rw [written_intercalate first none, written_intercalate second other] at same
    have pieces := congrArg (Text.pieces '/') (List.cons_inj_right '/' |>.mp same)
    rwa [Text.pieces_intercalate '/' first none clearFirst, Text.pieces_intercalate '/' second other clearSecond]
      at pieces

theorem text_unended (path : FilePath) (below : path.segments ≠ []) : Text.hasTrailing "/" path.text = false := by
  obtain ⟨front, last, shape⟩ := (List.eq_nil_or_concat path.segments).resolve_left below
  obtain ⟨filled, _, clear⟩ := segment_valid path last (by simp [shape])
  obtain ⟨start, final, rfl⟩ := (List.eq_nil_or_concat last).resolve_left filled
  have other : '/' ≠ final := by
    rintro rfl
    exact clear (by simp)
  rw [Text.hasTrailing, text_chars, if_neg below, shape]
  simp [written, List.isSuffixOf, List.isPrefixOf, other]

theorem directory_chars (dir : FilePath) : (Draft.directory dir.text).toList = written dir.segments ++ ['/'] := by
  by_cases root : dir.segments = []
  · rw [text, root]
    rfl
  · have chars := text_chars dir
    rw [if_neg root] at chars
    rw [Draft.directory, text_unended dir root]
    simp [chars]

-- What is longer than a directory and a slash is no root.
theorem written_below (path dir : FilePath) (rest : String) (filled : rest ≠ "")
    (same : path.text = Draft.directory dir.text ++ rest) :
    path.segments ≠ [] ∧ written path.segments = written dir.segments ++ '/' :: rest.toList := by
  have chars := congrArg String.toList same
  rw [String.toList_append, directory_chars, text_chars, List.append_assoc, List.singleton_append] at chars
  have below : path.segments ≠ [] := by
    intro root
    rw [if_pos root] at chars
    have lengths := congrArg List.length chars
    have positive := List.length_pos_iff.mpr (fun none => filled (String.toList_eq_nil_iff.mp none))
    simp at lengths
    omega
  rw [if_neg below] at chars
  exact ⟨below, chars⟩

-- The parent of a path is what stands in front of the last slash, and the root in
-- front of a slash that is the first.
theorem parent_iff_text (path dir : FilePath) : path.parent? = some dir ↔
    ∃ name, name ≠ "" ∧ '/' ∉ name.toList ∧ path.text = Draft.directory dir.text ++ name := by
  constructor
  · intro held
    rw [parent?] at held
    split at held
    · simp at held
    · next below =>
        obtain ⟨front, last, shape⟩ := (List.eq_nil_or_concat path.segments).resolve_left below
        obtain ⟨filled, _, apart⟩ := segment_valid path last (by simp [shape])
        have outer : dir.segments = front := by rw [← Option.some.inj held]; simp [shape]
        refine ⟨String.ofList last, by simpa using filled, by simpa using apart, ?_⟩
        apply String.toList_inj.mp
        rw [String.toList_append, directory_chars, text_chars, if_neg below, shape, outer]
        simp [written]
  · rintro ⟨name, filled, apart, same⟩
    obtain ⟨below, chars⟩ := written_below path dir name filled same
    have longer : written (dir.segments ++ [name.toList]) = written path.segments := by
      rw [chars]
      simp [written]
    have segments := written_injective _ path.segments (by
      rw [List.forall_mem_append, List.forall_mem_singleton]
      exact ⟨segments_clear dir, apart⟩) (segments_clear path) longer
    rw [parent?, if_neg below]
    cases dir
    simp [← segments]

end ClientPackager.FilePath
