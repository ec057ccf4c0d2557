import ClientPackager.Template.Reader

set_option autoImplicit false

namespace ClientPackager.Template

-- The equations of the reader are stated for texts that no proof looks into:
-- only whether a text is empty and how it begins and ends plays a part.
section Lines

theorem opens_line (text : List Char) (start : Bool) (fed : text.getLast? = some '\n') :
    opensLine start (some (.text text)) = true := by
  obtain ⟨front, rfl⟩ := List.getLast?_eq_some_iff.mp fed
  have solid : isSpace '\n' = false := rfl
  simp [opensLine, solid, isLineEnd]

theorem keeps_line (text : List Char) (fed : text.getLast? = some '\n') : dropSpaceBehind text = text := by
  obtain ⟨front, rfl⟩ := List.getLast?_eq_some_iff.mp fed
  have solid : isSpace '\n' = false := rfl
  simp [dropSpaceBehind, solid]

-- A line feed in front, before some text or one more line feed or nothing.
theorem feed_ends (rest : List Segment) :
    (∀ text, endsLine (.text ("\n" ++ text).toList :: rest) = true) ∧
    endsLine (.text "\n\n".toList :: rest) = true ∧ endsLine (.text "\n".toList :: rest) = true := by
  simp [endsLine, isSpace, isLineEnd]

theorem feed_drops :
    (∀ text, dropLine ("\n" ++ text).toList = text.toList) ∧
    dropLine "\n\n".toList = "\n".toList ∧ dropLine "\n".toList = "".toList := by
  simp [dropLine, isSpace]

theorem feed_fed : "\n".toList.getLast? = some '\n' := by
  simp

theorem lines_fed (first : String) (rest : List String) : (lines (first :: rest)).toList.getLast? = some '\n' := by
  obtain ⟨front, last, shape⟩ := (List.eq_nil_or_concat (first :: rest)).resolve_left (List.cons_ne_nil _ _)
  simp [lines, shape]

-- Whether the tag behind a text is a block's and has its line for itself.
def standsAlone (before : Option Segment) (text : List Char) : List Segment → Bool
  | [] => false
  | tag :: later => tag.ofBlock && opensLine before.isNone (some (.text text)) && endsLine later

variable (start cut : Bool) (before : Option Segment) (text : List Char) (rest : List Segment)

theorem drop_text : dropTagLines start cut before (.text text :: rest) =
    .text (if standsAlone before text rest then dropSpaceBehind (if cut then dropLine text else text)
        else if cut then dropLine text else text) ::
      dropTagLines before.isNone false (some (.text text)) rest := by
  simp only [dropTagLines]
  cases rest <;> rfl

theorem drop_tag (tag : Segment) (marked : ∀ text, tag ≠ .text text) :
    dropTagLines start cut before (tag :: rest) =
      tag :: dropTagLines false (tag.ofBlock && opensLine start before && endsLine rest) (some tag) rest := by
  cases tag with
  | text text => exact absurd rfl (marked text)
  | value | call | opening | orElse | otherwise | closing => rw [dropTagLines]; simp

theorem drop_before_value (path : FieldPath) :
    dropTagLines start cut before (.text text :: .value path :: rest) =
      .text (if cut then dropLine text else text) :: .value path ::
        dropTagLines false false (some (.value path)) rest := by
  simp [drop_text, standsAlone, drop_tag, Segment.ofBlock]

theorem drop_before_call (helper : String) (args : List Operand) :
    dropTagLines start cut before (.text text :: .call helper args :: rest) =
      .text (if cut then dropLine text else text) :: .call helper args ::
        dropTagLines false false (some (.call helper args)) rest := by
  simp [drop_text, standsAlone, drop_tag, Segment.ofBlock]

theorem drop_last : dropTagLines start true before [.text text] = [.text (dropLine text)] := by
  rw [drop_text]
  rfl

variable (fed : text.getLast? = some '\n') (ends : endsLine rest = true)

include fed ends

theorem drop_before_opening (helper : String) (args : List Operand) :
    dropTagLines start cut before (.text text :: .opening helper args :: rest) =
      .text (dropSpaceBehind (if cut then dropLine text else text)) :: .opening helper args ::
        dropTagLines false true (some (.opening helper args)) rest := by
  simp [drop_text, standsAlone, drop_tag, Segment.ofBlock, opens_line, fed, ends]

theorem drop_before_closing (helper : String) :
    dropTagLines start cut before (.text text :: .closing helper :: rest) =
      .text (dropSpaceBehind (if cut then dropLine text else text)) :: .closing helper ::
        dropTagLines false true (some (.closing helper)) rest := by
  simp [drop_text, standsAlone, drop_tag, Segment.ofBlock, opens_line, fed, ends]

end Lines

section Blocks

variable (rest : List Segment) (frames : List Frame) (done : List Node)

theorem nest_text (text : String) (present : text ≠ "") :
    nest (.text text.toList :: rest) frames done = nest rest frames (.text text :: done) := by
  have solid : text.toList ≠ [] := by simpa using present
  rw [nest]
  · rw [String.ofList_toList]
  · exact solid

-- One equation for each other kind of segment that a source without branches has.
theorem nest_step :
    nest [] [] done = some done.reverse ∧
    nest (.text "".toList :: rest) frames done = nest rest frames done ∧
    (∀ path, nest (.value path :: rest) frames done = nest rest frames (.value path :: done)) ∧
    (∀ helper args,
      nest (.call helper args :: rest) frames done = nest rest frames (.call helper args :: done)) ∧
    (∀ helper args, nest (.opening helper args :: rest) frames done =
      nest rest (⟨helper, done, [], some (helper, args)⟩ :: frames) []) ∧
    (∀ helper args outer,
      nest (.closing helper :: rest) (⟨helper, outer, [], some (helper, args)⟩ :: frames) done =
        nest rest frames (.block helper args done.reverse none :: outer)) := by
  refine ⟨?_, ?_, ?_, ?_, ?_, ?_⟩
  · rw [nest]
  · rw [String.toList_empty, nest]
  · intro path
    rw [nest]
  · intro helper args
    rw [nest]
  · intro helper args
    rw [nest]
  · intro helper args outer
    rw [nest, if_pos rfl]
    rfl

end Blocks

end ClientPackager.Template
