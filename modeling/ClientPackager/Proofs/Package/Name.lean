import ClientPackager.PackageName
import ClientPackager.Proofs.Files.FilePath

set_option autoImplicit false

namespace ClientPackager.PackageName

theorem segment_tail (segment : List Char) (valid : isSegment segment = true) : ∀ c ∈ segment, isTailChar c = true := by
  cases segment with
  | nil => simp [isSegment] at valid
  | cons first rest =>
      rw [isSegment, Bool.and_eq_true, List.all_eq_true] at valid
      intro c member
      rcases List.mem_cons.mp member with rfl | later
      · simp [isTailChar, valid.1]
      · exact valid.2 c later

theorem segment_excludes (segment : List Char) (valid : isSegment segment = true) (c : Char)
    (foreign : isTailChar c = false) : c ∉ segment := by
  intro member
  simp [segment_tail segment valid c member] at foreign

-- It starts with a letter or a digit, so it is neither empty nor two dots.
theorem segment_of_path (segment : List Char) (valid : isSegment segment = true) :
    FilePath.isSegment segment = true ∧ '\x00' ∉ segment := by
  have noSlash := segment_excludes segment valid '/' (by decide)
  have noNul := segment_excludes segment valid '\x00' (by decide)
  refine ⟨(FilePath.segment_rules segment).mpr ⟨?_, ?_, noSlash⟩, noNul⟩
  · rintro rfl
    simp [isSegment] at valid
  · rintro rfl
    simp [isSegment, show '.'.isAlphanum = false by decide] at valid

theorem last_segment (cs : List Char) (named : isName cs = true) :
    ∃ segment, isSegment segment = true ∧ (cs = segment ∨ ∃ front, cs = front ++ '/' :: segment) := by
  have joined := Text.intercalate_pieces '/' cs
  rw [isName] at named
  split at named
  · next segment shape =>
      rw [shape] at joined
      exact ⟨segment, named, .inl (by simpa using joined.symm)⟩
  · next scope segment shape =>
      rw [Bool.and_eq_true] at named
      rw [shape] at joined
      refine ⟨segment, named.2, .inr ⟨'@' :: scope, ?_⟩⟩
      simpa using joined.symm
  · simp at named

theorem drop_leading_shape (c : Char) (s : String) :
    s.toList = (Text.dropLeading c s).toList ∨ s.toList = c :: (Text.dropLeading c s).toList := by
  rw [Text.dropLeading]
  split
  · next head rest shape =>
      by_cases same : head = c
      · exact .inr (by simp [same, shape])
      · exact .inl (by simp [same])
  · exact .inl rfl

theorem parse_ok (text : String) (name : PackageName) (parsed : parse text = .ok name) :
    name.text = Text.dropLeading '/' text := by
  simp only [parse] at parsed
  split at parsed
  · simp at parsed
  · split at parsed
    · split at parsed
      · rw [← Except.ok.inj parsed]
      · simp at parsed
    · simp at parsed

-- A slash in front of a name changes neither the name nor its last segment.
theorem parsed_segment (text : String) (name : PackageName) (parsed : parse text = .ok name) :
    isSegment (Text.afterLast '/' text).toList = true := by
  have dropped := parse_ok text name parsed
  obtain ⟨segment, valid, shape⟩ := last_segment name.text.toList name.well_formed
  have noSlash := segment_excludes segment valid '/' (by decide)
  have tail : text.toList = segment ∨ ∃ front, text.toList = front ++ '/' :: segment := by
    rcases drop_leading_shape '/' text with same | slash
    · rw [same, ← dropped]
      exact shape
    · rw [slash, ← dropped]
      rcases shape with whole | ⟨front, behind⟩
      · exact .inr ⟨[], by rw [whole, List.nil_append]⟩
      · exact .inr ⟨'/' :: front, by rw [behind, List.cons_append]⟩
  rcases tail with whole | ⟨front, behind⟩
  · have last := Text.after_last_whole '/' segment noSlash
    rw [← whole, String.ofList_toList] at last
    rw [last, whole]
    exact valid
  · have last := Text.after_last_tail '/' front segment noSlash
    rw [← behind, String.ofList_toList] at last
    rw [last, String.toList_ofList]
    exact valid

theorem name_leads_no_slash (name : PackageName) : Text.dropLeading '/' name.text = name.text := by
  have formed := name.well_formed
  rw [Text.dropLeading]
  split
  · next head rest shape =>
      by_cases slash : head = '/'
      · obtain ⟨piece, later, pieces⟩ := List.exists_cons_of_ne_nil (Text.pieces_ne_nil '/' rest)
        simp [isName, shape, slash, Text.pieces, pieces] at formed
      · rw [if_neg slash]
  · rfl

theorem parse_own_text (name : PackageName) : parse name.text = .ok name := by
  have present : name.text ≠ "" := by
    intro empty
    have formed := name.well_formed
    simp [empty, isName, Text.pieces, isSegment] at formed
  simp only [parse, name_leads_no_slash name, if_neg present, dif_pos name.short_enough, dif_pos name.well_formed]

end ClientPackager.PackageName
