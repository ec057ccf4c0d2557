import ClientPackager.Disk.Basic
import ClientPackager.Proofs.Disk.Trail
import ClientPackager.Proofs.Disk.Write

set_option autoImplicit false

namespace ClientPackager

open DiskPath (isAbsolute join ofSteps)

-- A name that a directory can hold something under.
@[mk_iff]
structure IsName (name : String) : Prop where
  present : name ≠ ""
  here : name ≠ "."
  up : name ≠ ".."
  clear : '/' ∉ name.toList
  clean : '\x00' ∉ name.toList
  short : name.utf8ByteSize ≤ Disk.longestName

instance : DecidablePred IsName := fun name => decidable_of_iff _ (isName_iff name).symm

def Named (place : Place) : Prop := ∀ name ∈ place, IsName name

instance : DecidablePred Named := fun place => inferInstanceAs (Decidable (∀ name ∈ place, IsName name))

theorem named_append (first later : Place) : Named (first ++ later) ↔ Named first ∧ Named later :=
  List.forall_mem_append

-- A slash stands before each name, and one alone for the root.
theorem canonical_text (place : Place) : (ofSteps true place).toList =
    if place = [] then ['/'] else FilePath.written (place.map String.toList) := by
  cases place with
  | nil => rfl
  | cons name rest =>
      rw [if_neg (by simp), FilePath.written_intercalate _ (by simp)]
      simp [ofSteps, String.toList_append, String.toList_intercalate]

theorem canonical_absolute (place : Place) : isAbsolute (ofSteps true place) = true := by
  simp [isAbsolute, Text.hasLeading, ofSteps, String.toList_append, List.isPrefixOf]

theorem canonical_pieces (place : Place) (clear : ∀ name ∈ place, '/' ∉ name.toList) :
    Text.pieces '/' (ofSteps true place).toList = [] :: if place = [] then [[]] else place.map String.toList := by
  cases place with
  | nil => rfl
  | cons name rest =>
      rw [canonical_text, if_neg (by simp), if_neg (by simp), FilePath.written_intercalate _ (by simp), Text.pieces,
        if_pos rfl, Text.pieces_intercalate '/' _ (by simp) (List.forall_mem_map.mpr clear)]

theorem steps_of_canonical (place : Place) (named : Named place) : Disk.stepsOf (ofSteps true place) = place := by
  have kept : place.filter (· ≠ "") = place :=
    List.filter_eq_self.mpr fun name listed => by simpa using (named name listed).present
  rw [Disk.stepsOf, Text.splitOn, canonical_pieces place fun name listed => (named name listed).clear]
  cases place with
  | nil => rfl
  | cons name rest => simpa [Function.comp_def] using kept

theorem steps_restored (names : List String) (solid : ∀ name ∈ names, name ≠ "" ∧ name ≠ "." ∧ '/' ∉ name.toList) :
    DiskPath.steps (ofSteps true names) = names := by
  have kept : (names.map String.toList).filter (fun piece => piece ≠ [] && !Export.isDot piece) =
      names.map String.toList := by
    rw [List.filter_eq_self, List.forall_mem_map]
    intro name listed
    obtain ⟨filled, here, _⟩ := solid name listed
    have apart : name.toList ≠ ['.'] := fun same => here (String.toList_inj.mp same)
    simpa [Export.isDot, apart] using filled
  rw [DiskPath.steps_absolute _ (canonical_absolute names), DiskPath.namesOf,
    canonical_pieces names fun name listed => (solid name listed).2.2]
  cases names with
  | nil => rfl
  | cons name rest =>
      rw [if_neg (by simp), List.filter_cons_of_neg (by simp), kept]
      simp [Function.comp_def]

theorem path_steps (place : Place) (named : Named place) : DiskPath.steps (ofSteps true place) = place :=
  steps_restored place fun name listed => ⟨(named name listed).present, (named name listed).here,
    (named name listed).clear⟩

theorem name_relative (name : String) (own : IsName name) : isAbsolute name = false := by
  have clear := own.clear
  cases shape : name.toList with
  | nil => simp [isAbsolute, Text.hasLeading, shape]
  | cons c rest =>
      rw [shape, List.mem_cons, not_or] at clear
      simp [isAbsolute, Text.hasLeading, shape, List.isPrefixOf, clear.1]

-- Only the path of the root ends in a slash.
theorem canonical_trailing (place : Place) (named : Named place) :
    Text.hasTrailing "/" (ofSteps true place) = decide (place = []) := by
  rcases List.eq_nil_or_concat place with rfl | ⟨front, name, rfl⟩
  · rfl
  · rw [List.concat_eq_append] at named ⊢
    have own : IsName name := named name (by simp)
    obtain ⟨chars, last, shape⟩ := (List.eq_nil_or_concat name.toList).resolve_left (by simpa using own.present)
    have other : last ≠ '/' := by
      rintro rfl
      exact own.clear (by simp [shape])
    have text : (ofSteps true (front ++ [name])).toList =
        FilePath.written (front.map String.toList) ++ '/' :: chars ++ [last] := by
      rw [canonical_text, if_neg (by simp)]
      simp [FilePath.written, shape]
    rw [Text.hasTrailing, text]
    simp [List.isSuffixOf, List.isPrefixOf, other.symm]

theorem join_canonical (place : Place) (name : String) (named : Named place) (own : IsName name) :
    join (ofSteps true place) name = ofSteps true (place ++ [name]) := by
  have present : ofSteps true place ≠ "" := DiskPath.absolute_ne_empty _ (canonical_absolute place)
  simp only [join, name_relative name own, Bool.false_eq_true, if_false, canonical_trailing place named]
  have text : (ofSteps true (place ++ [name])).toList = FilePath.written ((place ++ [name]).map String.toList) := by
    rw [canonical_text, if_neg (by simp)]
  apply String.toList_inj.mp
  rw [text]
  cases place with
  | nil => simp [FilePath.written, ofSteps]
  | cons first rest =>
      rw [if_neg (by simpa using present), String.toList_append, String.toList_append, canonical_text, if_neg (by simp)]
      simp [FilePath.written]

-- Where a trail leads from a place.
def below (place : Place) (trail : Export.Trail) : Place := place ++ trail.map String.ofList

theorem below_concat (place : Place) (front : Export.Trail) (segment : List Char) :
    below place (front ++ [segment]) = below place front ++ [String.ofList segment] := by
  simp [below]

theorem path_of_below (place : Place) (trail : Export.Trail) (present : trail ≠ [])
    (named : Named (below place trail)) :
    Export.pathOf (ofSteps true place) trail = ofSteps true (below place trail) := by
  have folded : ∀ (trail : Export.Trail) (place : Place), Named (below place trail) →
      trail.foldl (fun dir segment => join dir (String.ofList segment)) (ofSteps true place) =
        ofSteps true (below place trail) := by
    intro trail
    induction trail with
    | nil => simp [below]
    | cons segment rest ih =>
        intro place named
        have split : below place (segment :: rest) = below (place ++ [String.ofList segment]) rest := by simp [below]
        rw [split] at named ⊢
        obtain ⟨front, _⟩ := (named_append _ _).mp named
        obtain ⟨outer, own⟩ := (named_append _ _).mp front
        rw [List.foldl_cons, join_canonical place _ outer (own _ (by simp)), ih _ named]
  cases trail with
  | nil => exact absurd rfl present
  | cons segment rest => exact folded (segment :: rest) place named

-- The file that a file is written to first.
def aside (trail : Export.Trail) : Export.Trail :=
  trail.dropLast ++ (trail.getLast?.map (· ++ ".tmp".toList)).toList

theorem aside_concat (front : Export.Trail) (segment : List Char) :
    aside (front ++ [segment]) = front ++ [segment ++ ".tmp".toList] := by
  simp [aside]

theorem suffixed_name (segment : List Char) :
    String.ofList (segment ++ ".tmp".toList) = String.ofList segment ++ ".tmp" := by
  apply String.toList_inj.mp
  simp [String.toList_append]

def Dotless (trail : Export.Trail) : Prop := ∀ segment ∈ trail, Export.isDot segment = false

instance : DecidablePred Dotless := fun trail =>
  inferInstanceAs (Decidable (∀ segment ∈ trail, Export.isDot segment = false))

theorem dotless_of_named (place : Place) (trail : Export.Trail) (named : Named (below place trail)) :
    Dotless trail := by
  intro segment listed
  have own := named (String.ofList segment) (List.mem_append_right _ (List.mem_map_of_mem listed))
  have apart : segment ≠ ['.'] := fun same => own.here (by rw [same])
  simp [Export.isDot, apart]

theorem settled_dotless (trail : Export.Trail) (dotless : Dotless trail) : Export.settled trail = trail := by
  rcases List.eq_nil_or_concat trail with rfl | ⟨front, last, rfl⟩
  · rfl
  · have solid := dotless last (by simp)
    simp [Export.settled, solid]

theorem above_dotless (trail : Export.Trail) (dotless : Dotless trail) : Export.above trail = trail.dropLast := by
  rw [Export.above, settled_dotless trail dotless]
  exact settled_dotless _ fun segment listed => dotless segment ((List.dropLast_sublist trail).mem listed)

theorem plain_dotless (trail : Export.Trail) (dotless : Dotless trail) : Export.plain trail = trail := by
  rw [Export.plain, List.filter_eq_self]
  exact fun segment listed => by simp [dotless segment listed]

theorem temporary_path (base : String) (trail : Export.Trail) (present : trail ≠ []) (dotless : Dotless trail) :
    Export.temporaryPath base trail = Export.pathOf base (aside trail) := by
  rw [Export.temporaryPath, settled_dotless trail dotless, above_dotless trail dotless, aside]
  obtain ⟨front, last, rfl⟩ := (List.eq_nil_or_concat trail).resolve_left present
  simp

theorem aside_present (trail : Export.Trail) (present : trail ≠ []) : aside trail ≠ [] := by
  obtain ⟨front, last, rfl⟩ := (List.eq_nil_or_concat trail).resolve_left present
  rw [List.concat_eq_append, aside_concat]
  simp

end ClientPackager
