import Mathlib.Data.Option.Basic
import ClientPackager.Template.Tag

set_option autoImplicit false

namespace ClientPackager.Template

def letters : List Char := "abcdefghijklmnopqrstuvwxyz_".toList

def isLetter (c : Char) : Bool := letters.contains c

-- Letters that the reader takes for a name wherever they stand.
structure Word (name : List Char) : Prop where
  present : name ≠ []
  letters : name.all isLetter = true
  free : ∀ reserved ∈ ["as", "else", "true", "false", "null"], ¬ reserved.toList <+: name

instance (name : List Char) : Decidable (Word name) :=
  decidable_of_iff (name ≠ [] ∧ name.all isLetter = true ∧
    ∀ reserved ∈ ["as", "else", "true", "false", "null"], ¬ reserved.toList <+: name)
    ⟨fun ⟨present, letters, free⟩ => ⟨present, letters, free⟩, fun ⟨present, letters, free⟩ => ⟨present, letters, free⟩⟩

def close (rest : List Char) : List Char := '\x7d' :: '\x7d' :: rest

theorem close_ends (rest : List Char) : endsName (close rest) = true := rfl

variable {name tail : List Char}

theorem letter_ne (c other : Char) (letter : isLetter c = true) (foreign : isLetter other = false) : c ≠ other := by
  rintro rfl
  simp [letter] at foreign

theorem letter_shape (c : Char) (letter : isLetter c = true) : isNameChar c = true ∧ c.isDigit = false := by
  have shapes : letters.all (fun c => isNameChar c && !c.isDigit) = true := by decide
  simpa using List.all_eq_true.mp shapes c (by simpa [isLetter] using letter)

theorem word_starts (word : Word name) : ∃ c later, name = c :: later ∧ isLetter c = true := by
  cases name with
  | nil => exact absurd rfl word.present
  | cons c later => exact ⟨c, later, rfl, List.all_eq_true.mp word.letters c List.mem_cons_self⟩

theorem word_in_name (word : Word name) : ∀ c ∈ name, isNameChar c = true :=
  fun c member => (letter_shape c (List.all_eq_true.mp word.letters c member)).1

theorem take_word (word : Word name) (ends : endsName tail = true) : (name ++ tail).takeWhile isNameChar = name := by
  rw [List.takeWhile_append_of_pos (word_in_name word)]
  cases tail with
  | nil => simp
  | cons c later => simp_all [endsName]

theorem drop_word (word : Word name) (ends : endsName tail = true) : (name ++ tail).dropWhile isNameChar = tail := by
  rw [List.dropWhile_append_of_pos (word_in_name word)]
  cases tail with
  | nil => rfl
  | cons c later => simp_all [endsName]

theorem read_name (word : Word name) (ends : endsName tail = true) :
    readName (name ++ tail) = some (String.ofList name, tail) := by
  simp [readName, take_word word ends, drop_word word ends, word.present]

theorem skip_gap_word (word : Word name) : skipGap (name ++ tail) = name ++ tail := by
  obtain ⟨c, later, rfl, letter⟩ := word_starts word
  have solid : isGap c = false := by
    simp only [isGap, Bool.or_eq_false_iff, beq_eq_false_iff_ne]
    exact ⟨⟨⟨letter_ne c _ letter rfl, letter_ne c _ letter rfl⟩, letter_ne c _ letter rfl⟩, letter_ne c _ letter rfl⟩
  simp [skipGap, solid]

-- A word in front of a name that goes on behind the word is another name.
theorem no_word_in_front (reserved : String) (plain : reserved.toList.all isNameChar = true)
    (ends : endsName tail = true) (free : ¬ reserved.toList <+: name) : afterWord? reserved (name ++ tail) = none := by
  have apart : ¬ reserved.toList <+: name ++ tail := by
    intro front
    rcases List.prefix_or_prefix_of_prefix front (List.prefix_append name tail) with inside | ⟨more, across⟩
    · exact free inside
    · rw [← across, List.prefix_append_right_inj] at front
      cases more with
      | nil => exact free (by simp [← across])
      | cons c later =>
          obtain ⟨behind, rfl⟩ := front
          have named := List.all_eq_true.mp plain c (by simp [← across])
          simp [endsName, named] at ends
  simpa [afterWord?] using apart

theorem word_unreserved (word : Word name) (ends : endsName tail = true) (reserved : String)
    (listed : reserved ∈ ["as", "else", "true", "false", "null"]) : afterWord? reserved (name ++ tail) = none := by
  apply no_word_in_front reserved _ ends (word.free reserved listed)
  revert reserved
  decide

theorem read_step (word : Word name) (ends : endsName tail = true) :
    readStep (name ++ tail) = some (String.ofList name, tail) := by
  have named := read_name word ends
  obtain ⟨c, later, rfl, letter⟩ := word_starts word
  rw [List.cons_append, readStep]
  · exact named
  · rintro rest same
    obtain rfl : c = '[' := (List.cons.inj same).1
    exact absurd letter (by decide)

theorem no_step_at_close (fuel : Nat) (rest : List Char) : readSteps fuel (close rest) = ([], close rest) := by
  cases fuel <;> rfl

-- What comes before a close is all of the word in front, so no step goes on.
theorem no_step_behind (word : Word name) (rest front later : List Char) (mark : Char)
    (same : name ++ close rest = front ++ mark :: later) (named : front.all isNameChar = true)
    (foreign : isNameChar mark = false) : mark = '\x7d' := by
  have cut := drop_word word (close_ends rest)
  rw [same, List.dropWhile_append_of_pos (List.all_eq_true.mp named),
    List.dropWhile_cons_of_neg (by simp [foreign]), close] at cut
  exact (List.cons.inj cut).1

theorem read_path (word : Word name) (rest : List Char) :
    readPath (name ++ close rest) = some ([String.ofList name].filter (· ≠ "this"), close rest) := by
  have step := read_step word (close_ends rest)
  rw [readPath]
  · simp only [step, no_step_at_close, Option.bind_eq_bind, Option.bind_some]
    rfl
  · intro later same
    exact absurd (no_step_behind word rest [] _ '.' same rfl rfl) (by decide)
  · intro later same
    exact absurd (no_step_behind word rest "this".toList _ '.' same rfl rfl) (by decide)
  · intro later same
    exact absurd (no_step_behind word rest "this".toList _ '/' same rfl rfl) (by decide)

theorem number_not_word (word : Word name) : numberChars (name ++ tail) = none := by
  obtain ⟨c, later, rfl, letter⟩ := word_starts word
  have noSign : c ≠ '-' := letter_ne c '-' letter rfl
  have noDigit := (letter_shape c letter).2
  simp [numberChars, noSign, noDigit, guard]

theorem literal_not_word (word : Word name) (ends : endsName tail = true) : readLiteral (name ++ tail) = none := by
  have noTrue := word_unreserved word ends "true" (by decide)
  have noFalse := word_unreserved word ends "false" (by decide)
  have noNull := word_unreserved word ends "null" (by decide)
  obtain ⟨c, later, rfl, letter⟩ := word_starts word
  have noMark (mark : Char) (foreign : isLetter mark = false) : ((c :: later) ++ tail).head? ≠ some mark := by
    simpa using letter_ne c mark letter foreign
  rw [readLiteral]
  split
  · next same => exact absurd same (noMark '"' rfl)
  · next same => exact absurd same (noMark '[' rfl)
  · next same => exact absurd same (noMark '\x7b' rfl)
  · simp only [noTrue, noFalse, noNull]
    rfl

theorem read_field (word : Word name) (rest : List Char) :
    readOperand (name ++ close rest) = some (.field ([String.ofList name].filter (· ≠ "this")), close rest) := by
  have notReserved : isReserved (name ++ close rest) = false := by
    simp [isReserved, word_unreserved word (close_ends rest)]
  simp [readOperand, notReserved, number_not_word word, literal_not_word word (close_ends rest),
    read_path word rest]

theorem no_operand_at_close (fuel : Nat) (rest : List Char) : readOperands fuel (close rest) = ([], close rest) := by
  cases fuel <;> rfl

theorem close_closes (rest : List Char) : closed? (close rest) = some rest := rfl

theorem read_call_at_close (word : Word name) (rest : List Char) :
    readCall (name ++ close rest) = some (String.ofList name, [], close rest) := by
  simp only [readCall, read_name word (close_ends rest)]
  rfl

theorem read_call_of_field {helper : List Char} (helperWord : Word helper) (word : Word name) (rest : List Char) :
    readCall (helper ++ ' ' :: (name ++ close rest)) =
      some (String.ofList helper, [.field ([String.ofList name].filter (· ≠ "this"))], close rest) := by
  have gapEnds : endsName (' ' :: (name ++ close rest)) = true := rfl
  have named := read_name helperWord gapEnds
  have gap : skipGap (' ' :: (name ++ close rest)) = name ++ close rest := skip_gap_word word
  simp only [readCall, named, Option.bind_eq_bind, Option.bind_some, List.length_cons, readOperands, gap, read_field word,
    no_operand_at_close]
  rfl

theorem no_divider (word : Word name) (ends : endsName tail = true) : readDivider (name ++ tail) = none := by
  have noElse := word_unreserved word ends "else" (by decide)
  have noCaret : afterWord? "^" (name ++ tail) = none := by
    obtain ⟨c, later, rfl, letter⟩ := word_starts word
    have apart := letter_ne c '^' letter rfl
    simp [afterWord?, apart.symm]
  simp only [readDivider, noElse, noCaret]
  rfl

-- A tag that begins with a word is no block's.
theorem tag_of_content (word : Word name) (divider : readDivider (name ++ tail) = none) :
    readTag (name ++ tail) = (readContent (name ++ tail)).bind fun (segment, rest) =>
      (closed? rest).map fun rest => (segment, rest) := by
  have gap : skipGap (name ++ tail) = name ++ tail := skip_gap_word word
  obtain ⟨c, later, rfl, letter⟩ := word_starts word
  have noMark (mark : Char) (rest : List Char) (foreign : isLetter mark = false) :
      (c :: later) ++ tail ≠ mark :: rest := fun same => letter_ne c mark letter foreign (List.cons.inj same).1
  rw [readTag, gap]
  split
  · next same => exact absurd same (noMark '#' _ rfl)
  · next same => exact absurd same (noMark '/' _ rfl)
  · next same => exact absurd same (noMark '\x7b' _ rfl)
  · rw [divider, Option.none_or]
    cases readContent ((c :: later) ++ tail) with
    | none => rfl
    | some content => cases closing : closed? content.2 <;> simp [closing]

theorem value_tag (word : Word name) (free : helpers.contains (String.ofList name) = false) (rest : List Char) :
    readTag (name ++ close rest) = some (.value ([String.ofList name].filter (· ≠ "this")), rest) := by
  have content : readContent (name ++ close rest) =
      some (.value ([String.ofList name].filter (· ≠ "this")), close rest) := by
    simp only [readContent, read_call_at_close word, read_path word, Option.bind_eq_bind, Option.bind_some,
      List.length_append, Nat.add_sub_cancel, List.take_left, free]
    rfl
  rw [tag_of_content word (no_divider word rfl), content]
  rfl

theorem call_tag {helper : List Char} (helperWord : Word helper) (word : Word name) (rest : List Char) :
    readTag (helper ++ ' ' :: (name ++ close rest)) =
      some (.call (String.ofList helper) [.field ([String.ofList name].filter (· ≠ "this"))], rest) := by
  have content : readContent (helper ++ ' ' :: (name ++ close rest)) =
      some (.call (String.ofList helper) [.field ([String.ofList name].filter (· ≠ "this"))], close rest) := by
    rw [readContent, read_call_of_field helperWord word]
  rw [tag_of_content helperWord (no_divider helperWord rfl), content]
  rfl

theorem opening_tag {helper : List Char} (helperWord : Word helper) (word : Word name) (rest : List Char) :
    readTag ('#' :: (helper ++ ' ' :: (name ++ close rest))) =
      some (.opening (String.ofList helper) [.field ([String.ofList name].filter (· ≠ "this"))], rest) := by
  have gap : skipGap (helper ++ ' ' :: (name ++ close rest)) = helper ++ ' ' :: (name ++ close rest) :=
    skip_gap_word helperWord
  have opens (cs : List Char) : skipGap ('#' :: cs) = '#' :: cs := rfl
  simp only [readTag, opens, gap, read_call_of_field helperWord word, Option.bind_eq_bind, Option.bind_some,
    close_closes]
  rfl

theorem closing_tag (word : Word name) (rest : List Char) :
    readTag ('/' :: (name ++ close rest)) = some (.closing (String.ofList name), rest) := by
  have gap : skipGap (name ++ close rest) = name ++ close rest := skip_gap_word word
  have closes (cs : List Char) : skipGap ('/' :: cs) = '/' :: cs := rfl
  simp only [readTag, closes, gap, read_name word (close_ends rest), Option.bind_eq_bind, Option.bind_some,
    close_closes]
  rfl

end ClientPackager.Template
