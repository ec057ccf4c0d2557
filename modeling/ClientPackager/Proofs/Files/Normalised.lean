import ClientPackager.Proofs.Files.PathText

set_option autoImplicit false

namespace ClientPackager.FilePath

def Proper (segment : List Char) : Prop := segment ≠ [] ∧ segment ≠ ['.', '.']

-- What a segment is refused for.
inductive Offends : List Char → String → Prop where
  | up : Offends ['.', '.'] "parent directory reference"
  | empty : Offends [] "empty segment"

def Normal (text : String) : Prop :=
  text = "/" ∨ Text.hasTrailing "/" text = false ∧ ∃ segments, Cut text segments ∧ ∀ segment ∈ segments, Proper segment

section Segments

variable (segment : List Char)

theorem defect_none_iff : defect? segment = none ↔ Proper segment := by
  by_cases up : segment = ['.', '.']
  · simp [defect?, Proper, up]
  · by_cases empty : segment = [] <;> simp [defect?, Proper, up, empty]

theorem defect_some_iff (defect : SegmentDefect) : defect? segment = some defect ↔ Offends segment defect.reason := by
  constructor
  · intro found
    rw [defect?] at found
    split at found
    · next up =>
        rw [up, ← Option.some.inj found]
        exact .up
    · split at found
      · next empty =>
          rw [empty, ← Option.some.inj found]
          exact .empty
      · cases found
  · intro offends
    generalize text : defect.reason = reason at offends
    cases offends with
    | up =>
        cases defect with
        | parentReference => rfl
        | empty => exact absurd text (by decide)
    | empty =>
        cases defect with
        | parentReference => exact absurd text (by decide)
        | empty => rfl

end Segments

section Parsing

variable (raw : String)

theorem absolute_iff_cut : Text.hasLeading "/" raw = true ↔ ∃! segments, Cut raw segments := by
  constructor
  · intro absolute
    obtain ⟨segments, cut⟩ := cut_exists raw absolute
    exact ⟨segments, cut, fun other also => (cut_pieces raw other also).symm.trans (cut_pieces raw segments cut)⟩
  · rintro ⟨segments, cut, _⟩
    exact cut.absolute

-- The first segment from the left that is none decides.
theorem parse_refuses (fault : TreeFault) : parse raw = .error fault ↔
    Text.hasLeading "/" raw = false ∧ fault = .notAbsolute raw ∨
    ∃ front segment rest defect, Cut raw (front ++ segment :: rest) ∧ (∀ earlier ∈ front, Proper earlier) ∧
      Offends segment defect.reason ∧ fault = .invalidSegment raw defect := by
  cases absolute : Text.hasLeading "/" raw with
  | false =>
      have outside (segments : List (List Char)) : ¬ Cut raw segments := fun cut => by
        rw [cut.absolute] at absolute
        cases absolute
      simp [parse, absolute, outside, eq_comm]
  | true =>
      obtain ⟨segments, cut⟩ := cut_exists raw absolute
      have pieces := cut_pieces raw segments cut
      have outcome : parse raw = .error fault ↔
          ∃ defect, segments.findSome? defect? = some defect ∧ fault = .invalidSegment raw defect := by
        simp only [parse, if_pos absolute]
        split
        · next defect found =>
            rw [pieces] at found
            simp [found, eq_comm]
        · next clean =>
            rw [pieces] at clean
            simp [clean]
      rw [outcome]
      constructor
      · rintro ⟨defect, found, rfl⟩
        obtain ⟨front, segment, rest, shape, offends, before⟩ := List.findSome?_eq_some_iff.mp found
        exact .inr ⟨front, segment, rest, defect, shape ▸ cut, fun earlier listed =>
          (defect_none_iff earlier).mp (before earlier listed), (defect_some_iff segment defect).mp offends, rfl⟩
      · rintro (⟨relative, _⟩ | ⟨front, segment, rest, defect, also, before, offends, rfl⟩)
        · cases relative
        · refine ⟨defect, ?_, rfl⟩
          rw [← pieces, cut_pieces raw _ also, List.findSome?_eq_some_iff]
          exact ⟨front, segment, rest, rfl, (defect_some_iff segment defect).mpr offends, fun earlier listed =>
            (defect_none_iff earlier).mpr (before earlier listed)⟩

theorem accepted_iff_proper : (∃ path, parse raw = .ok path) ↔
    ∃ segments, Cut raw segments ∧ ∀ segment ∈ segments, Proper segment := by
  constructor
  · rintro ⟨path, parsed⟩
    refine ⟨path.segments, (parse_accepts raw path).mp parsed, fun segment listed => ?_⟩
    obtain ⟨filled, up, _⟩ := segment_valid path segment listed
    exact ⟨filled, up⟩
  · rintro ⟨segments, cut, proper⟩
    have valid : segments.all isSegment = true := List.all_eq_true.mpr fun segment listed =>
      (segment_rules segment).mpr ⟨(proper segment listed).1, (proper segment listed).2, cut.clear segment listed⟩
    exact ⟨⟨segments, valid⟩, (parse_accepts raw ⟨segments, valid⟩).mpr cut⟩

theorem text_normal (path : FilePath) : Normal path.text := by
  by_cases root : path.segments = []
  · exact .inl (by rw [text, root])
  · exact .inr ⟨text_unended path root, (accepted_iff_proper path.text).mp ⟨path, parse_text path⟩⟩

theorem same_path_iff (other : String) (path again : FilePath) (parsed : parse raw = .ok path)
    (also : parse other = .ok again) : path = again ↔ Text.dropTrailing '/' raw = Text.dropTrailing '/' other := by
  have cut := (parse_accepts raw path).mp parsed
  have cutAlso := (parse_accepts other again).mp also
  rw [cut_trimmed raw _ cut, cut_trimmed other _ cutAlso, String.ofList_inj]
  constructor
  · rintro rfl
    rfl
  · exact fun same => segments_injective path again (written_injective _ _ cut.clear cutAlso.clear same)

end Parsing

theorem paths_normalised (raw : String) :
    (Text.hasLeading "/" raw = true ↔ ∃! segments, Cut raw segments) ∧
    ((∃ path, parse raw = .ok path) ↔ ∃ segments, Cut raw segments ∧ ∀ segment ∈ segments, Proper segment) ∧
    (∀ path, parse raw = .ok path → Cut raw path.segments ∧
      path.text = (if Text.dropTrailing '/' raw = "" then "/" else Text.dropTrailing '/' raw) ∧ Normal path.text ∧
      parse path.text = .ok path ∧ ∀ other again, parse other = .ok again →
        (path = again ↔ Text.dropTrailing '/' raw = Text.dropTrailing '/' other)) ∧
    ∀ fault, parse raw = .error fault ↔
      Text.hasLeading "/" raw = false ∧ fault = .notAbsolute raw ∨
      ∃ front segment rest defect, Cut raw (front ++ segment :: rest) ∧ (∀ earlier ∈ front, Proper earlier) ∧
        Offends segment defect.reason ∧ fault = .invalidSegment raw defect :=
  ⟨absolute_iff_cut raw, accepted_iff_proper raw, fun path parsed => ⟨(parse_accepts raw path).mp parsed,
    text_of_parse raw path parsed, text_normal path, parse_text path,
    fun other again also => same_path_iff raw other path again parsed also⟩, parse_refuses raw⟩

def accountFolder : FilePath := ⟨["AccountService".toList], by decide⟩

theorem account_folder_normalised : parse "/AccountService//" = .ok accountFolder ∧
    Cut "/AccountService//" accountFolder.segments ∧ accountFolder.text = "/AccountService" ∧
    Normal accountFolder.text ∧ parse accountFolder.text = .ok accountFolder ∧
    parse "/AccountService" = .ok accountFolder ∧
    Text.dropTrailing '/' "/AccountService//" = Text.dropTrailing '/' "/AccountService" := by
  have parsed : parse "/AccountService//" = .ok accountFolder := rfl
  have also : parse "/AccountService" = .ok accountFolder := rfl
  obtain ⟨_, _, accepted, _⟩ := paths_normalised "/AccountService//"
  obtain ⟨cut, text, normal, again, apart⟩ := accepted accountFolder parsed
  exact ⟨parsed, cut, text, normal, again, also, (apart "/AccountService" accountFolder also).mp rfl⟩

-- Of two offending segments the left one counts.
example : parse "/a/..//b" = .error (.invalidSegment "/a/..//b" .parentReference) := rfl

end ClientPackager.FilePath
