import ClientPackager.Proofs.Client.FileSpans

set_option autoImplicit false

namespace ClientPackager.Client

open ClientPackager.Client.Span (own given)
open Template

-- What a line of a file holds: its own characters, and each given text whole.
inductive Piece where
  | own (c : Char)
  | given (text : String)
deriving DecidableEq, Repr

namespace Piece

def chars : Piece → List Char
  | .own c => [c]
  | .given text => text.toList

def inName : Piece → Bool
  | .own c => c.isAlphanum || c == '_' || c == '$'
  | .given _ => true

end Piece

def Span.pieces : Span → List Piece
  | ⟨.own, text⟩ => text.toList.map .own
  | ⟨.given, text⟩ => [.given text]

-- The words in front of a name that a line declares, and the character behind
-- it.
structure Opening where
  words : List Char
  closing : Char
deriving DecidableEq, Repr

namespace Opening

def behind : List Char → List Piece → Option (List Piece)
  | [], rest => some rest
  | c :: words, .own d :: rest => if c = d then behind words rest else none
  | _ :: _, _ => none

def name (opening : Opening) (line : List Piece) : Option String :=
  (behind opening.words line).bind fun rest =>
    if (rest.dropWhile Piece.inName).head? = some (.own opening.closing) then
      some (String.ofList ((rest.takeWhile Piece.inName).flatMap Piece.chars))
    else none

end Opening

-- The first of some openings that fits a line.
def announced (openings : List Opening) (line : List Piece) : Option String :=
  openings.findSome? fun opening => opening.name line

-- The names that the lines of a file declare. The line in front is read up to
-- here.
def readNames (openings : List Opening) : List Piece → List Piece → List String
  | line, [] => (announced openings line).toList
  | line, piece :: rest =>
    if piece = .own '\n' then (announced openings line).toList ++ readNames openings [] rest
    else readNames openings (line ++ [piece]) rest

def pieces (spans : List Span) : List Piece := spans.flatMap Span.pieces

def declaredNames (openings : List Opening) (spans : List Span) : List String := readNames openings [] (pieces spans)

@[simp] theorem pieces_nil : pieces [] = [] := rfl

@[simp] theorem pieces_append (first later : List Span) : pieces (first ++ later) = pieces first ++ pieces later :=
  List.flatMap_append

@[simp] theorem pieces_own (text : String) (rest : List Span) :
    pieces (own text :: rest) = text.toList.map .own ++ pieces rest := rfl

@[simp] theorem pieces_given (text : String) (rest : List Span) :
    pieces (given text :: rest) = .given text :: pieces rest :=
  rfl

theorem pieces_own_append (first later : String) (rest : List Span) :
    pieces (own (first ++ later) :: rest) = pieces (own first :: own later :: rest) := by
  simp [String.toList_append]

section Reading

variable (openings : List Opening)

-- From a line that is read in part up to another one.
def Reads (front : List Piece) (all : List Piece) (names : List String) (back : List Piece) : Prop :=
  ∀ rest, readNames openings front (all ++ rest) = names ++ readNames openings back rest

theorem reads_nil (front : List Piece) : Reads openings front [] [] front := fun _ => rfl

theorem reads_append (front middle back first later : List Piece) (names others : List String)
    (here : Reads openings front first names middle) (there : Reads openings middle later others back) :
    Reads openings front (first ++ later) (names ++ others) back := by
  intro rest
  rw [List.append_assoc, here, there, List.append_assoc]

theorem reads_end (line : List Piece) : Reads openings line [.own '\n'] (announced openings line).toList [] := by
  intro rest
  rw [List.cons_append, List.nil_append, readNames, if_pos rfl]

theorem reads_part (front line : List Piece) (inner : .own '\n' ∉ line) :
    Reads openings front line [] (front ++ line) := by
  intro rest
  induction line generalizing front with
  | nil => rw [List.append_nil, List.nil_append, List.nil_append]
  | cons piece line ih =>
      rw [List.mem_cons, not_or] at inner
      rw [List.cons_append, readNames, if_neg (Ne.symm inner.1), ih _ inner.2, List.append_assoc,
        List.singleton_append]

theorem reads_line (front line : List Piece) (names : List String) (inner : .own '\n' ∉ line)
    (said : (announced openings (front ++ line)).toList = names) :
    Reads openings front (line ++ [.own '\n']) names [] := by
  subst said
  have whole := reads_append openings _ _ _ _ _ _ _ (reads_part openings front line inner)
    (reads_end openings (front ++ line))
  rwa [List.nil_append] at whole

theorem reads_silent {α : Type} (spans : α → List Span) (values : List α)
    (each : ∀ value, Reads openings [] (pieces (spans value)) [] []) :
    Reads openings [] (pieces (values.flatMap spans)) [] [] := by
  induction values with
  | nil => exact reads_nil openings []
  | cons value rest ih =>
      rw [List.flatMap_cons, pieces_append]
      exact reads_append openings _ _ _ _ _ _ _ (each value) ih

theorem reads_name (front line : List Piece) (text : String) (inner : .own '\n' ∉ line)
    (said : announced openings (front ++ line) = some (String.ofList (text.toList ++ []))) :
    Reads openings front (line ++ [.own '\n']) [text] [] :=
  reads_line openings front line [text] inner (by simp [said])

theorem reads_then (front middle back : List Piece) (span : Span) (rest : List Span) (names others : List String)
    (here : Reads openings front (pieces [span]) names middle)
    (there : Reads openings middle (pieces rest) others back) :
    Reads openings front (pieces (span :: rest)) (names ++ others) back := by
  rw [← List.singleton_append, pieces_append]
  exact reads_append openings _ _ _ _ _ _ _ here there

theorem reads_given (front : List Piece) (text : String) :
    Reads openings front (pieces [given text]) [] (front ++ [.given text]) := by
  rw [pieces_given, pieces_nil]
  exact reads_part openings front _ (by simp)

theorem declared_of_reads (spans : List Span) (names : List String) (reads : Reads openings [] (pieces spans) names [])
    (silent : announced openings [] = none) : declaredNames openings spans = names := by
  have read := reads []
  rwa [List.append_nil, readNames, silent, Option.toList_none, List.append_nil] at read

section Blocks

variable {α : Type} (spans : α → List Span) (names : α → List String)
  (each : ∀ value, Reads openings [] (pieces (spans value) ++ [.own '\n']) (names value) [])
  (opening gap : String) (skips : Reads openings [] (pieces [own gap]) [] []) (values : List α)

include each skips

-- What stands between two blocks ends the last line of the first one.
theorem separated_read (some : values ≠ []) :
    Reads openings [] (pieces ([own ("\n" ++ gap)].intercalate (values.map spans)) ++ [.own '\n'])
      (values.flatMap names) [] := by
  induction values with
  | nil => exact absurd rfl some
  | cons value rest ih =>
      cases rest with
      | nil => simpa using each value
      | cons next later =>
          have first := reads_append openings _ _ _ _ _ _ _ (each value) skips
          have both := reads_append openings _ _ _ _ _ _ _ first (ih (by simp))
          have split : pieces ([own ("\n" ++ gap)].intercalate ((value :: next :: later).map spans)) =
              pieces (spans value) ++ [.own '\n'] ++ pieces [own gap] ++
                pieces ([own ("\n" ++ gap)].intercalate ((next :: later).map spans)) := by
            rw [List.map_cons, List.map_cons, List.intercalate_cons_cons, pieces_append, pieces_append,
              pieces_own_append]
            simp
          rw [List.append_nil] at both
          rwa [split, List.append_assoc, List.flatMap_cons]

theorem blocks_read (opens : Reads openings [] (pieces [own opening]) [] []) :
    Reads openings [] (pieces (Span.blocks opening ("\n" ++ gap) (values.map spans))) (values.flatMap names) [] := by
  cases values with
  | nil => exact reads_nil openings []
  | cons value rest =>
      have inner := separated_read openings spans names each gap skips (value :: rest) (by simp)
      have whole := reads_append openings _ _ _ _ _ _ _ opens inner
      rw [Span.blocks, if_neg (by simp), ← List.singleton_append, pieces_append, pieces_append]
      exact whole

end Blocks

-- Lines of a file's own, and the characters of each.
inductive Lettered : List String → List (List Char) → Prop where
  | nil : Lettered [] []
  | cons (line : List Char) (rest : List String) (letters : List (List Char)) (later : Lettered rest letters) :
      Lettered (String.ofList line :: rest) (line :: letters)

def Whole (letters : List (List Char)) : Prop := letters.all (fun line => line.all (· != '\n')) = true

instance (letters : List (List Char)) : Decidable (Whole letters) := inferInstanceAs (Decidable (_ = true))

def announcedIn (openings : List Opening) (letters : List (List Char)) : List String :=
  letters.filterMap fun line => announced openings (line.map .own)

theorem whole_cons (line : List Char) (rest : List (List Char)) (whole : Whole (line :: rest)) :
    .own '\n' ∉ line.map Piece.own ∧ Whole rest := by
  rw [Whole, List.all_cons, Bool.and_eq_true] at whole
  refine ⟨?_, whole.2⟩
  simpa using fun held => absurd (List.all_eq_true.mp whole.1 _ held) (by simp)

theorem pieces_of_lines (line : List Char) (rest : List String) :
    pieces [own (lines (String.ofList line :: rest))] =
      line.map .own ++ [.own '\n'] ++ pieces [own (lines rest)] := by
  simp [lines, String.toList_append]

theorem reads_lines (all : List String) (letters : List (List Char)) (spelt : Lettered all letters)
    (whole : Whole letters) : Reads openings [] (pieces [own (lines all)]) (announcedIn openings letters) [] := by
  induction spelt with
  | nil => exact reads_nil openings []
  | cons line rest letters _ ih =>
      obtain ⟨inner, later⟩ := whole_cons line letters whole
      have first := reads_line openings [] _ _ inner rfl
      have said : announcedIn openings (line :: letters) =
          (announced openings (line.map .own)).toList ++ announcedIn openings letters := by
        rw [announcedIn, List.filterMap_cons]
        cases announced openings (line.map .own) <;> rfl
      rw [pieces_of_lines, said]
      exact reads_append openings _ _ _ _ _ _ _ first (ih later)

-- The first of these lines goes on with one that is read in part.
theorem passage_read (front : List Piece) (line : List Char) (others : List String) (letters : List (List Char))
    (named later : List String) (spelt : Lettered others letters) (whole : Whole (line :: letters))
    (first : (announced openings (front ++ line.map .own)).toList = named)
    (rest : announcedIn openings letters = later) :
    Reads openings front (pieces [own (lines (String.ofList line :: others))]) (named ++ later) [] := by
  obtain ⟨inner, wholeRest⟩ := whole_cons line letters whole
  rw [pieces_of_lines, ← rest]
  exact reads_append openings _ _ _ _ _ _ _ (reads_line openings front _ named inner first)
    (reads_lines openings others letters spelt wholeRest)

theorem open_passage_read (front : List Piece) (line last : List Char) (others : List String)
    (letters : List (List Char)) (named later : List String) (spelt : Lettered others letters)
    (whole : Whole (last :: line :: letters)) (first : (announced openings (front ++ line.map .own)).toList = named)
    (rest : announcedIn openings letters = later) :
    Reads openings front (pieces [own (lines (String.ofList line :: others) ++ String.ofList last)])
      (named ++ later) (last.map .own) := by
  obtain ⟨inner, wholeRest⟩ := whole_cons last (line :: letters) whole
  have closed := passage_read openings front line others letters named later spelt wholeRest first rest
  have both := reads_append openings _ _ _ _ _ _ _ closed (reads_part openings [] _ inner)
  rw [List.append_nil, List.nil_append] at both
  rw [pieces_own_append, ← List.singleton_append, pieces_append]
  simpa using both

end Reading

end ClientPackager.Client
