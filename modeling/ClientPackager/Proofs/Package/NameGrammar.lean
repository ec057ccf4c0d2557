import Mathlib.Computability.RegularExpressions
import ClientPackager.Proofs.Package.Name

set_option autoImplicit false

namespace ClientPackager.PackageName

open RegularExpression (char)

-- The names of packages as a regular expression: [A-Za-z0-9][A-Za-z0-9._~-]* with
-- at most one scope before it.
def oneOf (characters : List Char) : RegularExpression Char := (characters.map char).sum

def alphanumerics : List Char := ('A' ...= 'Z').toList ++ ('a' ...= 'z').toList ++ ('0' ...= '9').toList

def tailCharacters : List Char := alphanumerics ++ ['.', '_', '~', '-']

def segmentPattern : RegularExpression Char := oneOf alphanumerics * (oneOf tailCharacters).star

def scopePattern : RegularExpression Char := char '@' * segmentPattern * char '/'

def namePattern : RegularExpression Char := (1 + scopePattern) * segmentPattern

theorem one_of_matches (characters cs : List Char) :
    cs ∈ (oneOf characters).matches' ↔ ∃ c ∈ characters, cs = [c] := by
  induction characters with
  | nil => simp [oneOf, Language.notMem_zero]
  | cons c rest ih =>
      have split : (oneOf (c :: rest)).matches' = {[c]} + (oneOf rest).matches' := rfl
      have alone : cs ∈ ({[c]} : Language Char) ↔ cs = [c] := Iff.rfl
      rw [split, Language.mem_add, alone, ih, List.exists_mem_cons_iff]

theorem star_matches (characters cs : List Char) :
    cs ∈ (oneOf characters).star.matches' ↔ ∀ c ∈ cs, c ∈ characters := by
  rw [RegularExpression.matches'_star, Language.mem_kstar]
  constructor
  · rintro ⟨words, rfl, each⟩ c member
    obtain ⟨word, listed, inside⟩ := List.mem_flatten.mp member
    obtain ⟨letter, known, rfl⟩ := (one_of_matches characters word).mp (each word listed)
    exact List.mem_singleton.mp inside ▸ known
  · intro known
    refine ⟨cs.map fun c => [c], by rw [← List.flatMap_def, List.flatMap_singleton'], ?_⟩
    simp only [List.forall_mem_map, one_of_matches]
    exact fun c member => ⟨c, known c member, rfl⟩

theorem mem_alphanumerics (c : Char) : c ∈ alphanumerics ↔ c.isAlphanum = true := by
  have upper : c.isUpper = true ↔ 'A' ≤ c ∧ c ≤ 'Z' := decide_eq_true_iff
  have both (p q : Prop) [Decidable p] [Decidable q] : (decide p && decide q) = true ↔ p ∧ q := by simp
  have lower : c.isLower = true ↔ 'a' ≤ c ∧ c ≤ 'z' := both _ _
  have digit : c.isDigit = true ↔ '0' ≤ c ∧ c ≤ '9' := both _ _
  have classes : c.isAlphanum = (c.isUpper || c.isLower || c.isDigit) := rfl
  simp only [alphanumerics, List.mem_append, Std.Rcc.mem_toList_iff_mem, Std.Rcc.mem_iff, classes, Bool.or_eq_true,
    upper, lower, digit]

theorem mem_tail_characters (c : Char) : c ∈ tailCharacters ↔ isTailChar c = true := by
  simp [tailCharacters, mem_alphanumerics, isTailChar, or_assoc]

theorem segment_matches (cs : List Char) : cs ∈ segmentPattern.matches' ↔ isSegment cs = true := by
  simp only [segmentPattern, RegularExpression.matches'_mul, Language.mem_mul, one_of_matches, star_matches,
    mem_alphanumerics, mem_tail_characters]
  cases cs with
  | nil => simp [isSegment]
  | cons first rest => simp [isSegment]

theorem scope_matches (cs : List Char) :
    cs ∈ scopePattern.matches' ↔ ∃ scope, isSegment scope = true ∧ cs = '@' :: scope ++ ['/'] := by
  have alone (c : Char) (word : List Char) : word ∈ (char c).matches' ↔ word = [c] := Iff.rfl
  simp only [scopePattern, RegularExpression.matches'_mul, Language.mem_mul, alone, segment_matches]
  constructor
  · rintro ⟨_, ⟨_, rfl, scope, valid, rfl⟩, _, rfl, rfl⟩
    exact ⟨scope, valid, rfl⟩
  · rintro ⟨scope, valid, rfl⟩
    exact ⟨'@' :: scope, ⟨['@'], rfl, scope, valid, rfl⟩, ['/'], rfl, rfl⟩

-- What may stand in front of the last segment.
def IsScope (cs : List Char) : Prop := cs = [] ∨ cs ∈ scopePattern.matches'

theorem name_matches (cs : List Char) :
    cs ∈ namePattern.matches' ↔ ∃ scope segment, IsScope scope ∧ isSegment segment = true ∧ cs = scope ++ segment := by
  have front (scope : List Char) : scope ∈ (1 + scopePattern).matches' ↔ IsScope scope := Iff.rfl
  simp only [namePattern, RegularExpression.matches'_mul, Language.mem_mul, front, segment_matches]
  constructor
  · rintro ⟨scope, before, segment, valid, rfl⟩
    exact ⟨scope, segment, before, valid, rfl⟩
  · rintro ⟨scope, segment, before, valid, rfl⟩
    exact ⟨scope, before, segment, valid, rfl⟩

theorem scope_no_slash (scope : List Char) (valid : isSegment scope = true) : '/' ∉ '@' :: scope := by
  simpa using segment_excludes scope valid '/' (by decide)

theorem name_in_grammar (cs : List Char) : isName cs = true ↔ cs ∈ namePattern.matches' := by
  rw [name_matches]
  constructor
  · intro named
    have joined := Text.intercalate_pieces '/' cs
    rw [isName] at named
    split at named
    · next segment shape =>
        rw [shape] at joined
        exact ⟨[], segment, .inl rfl, named, by simpa using joined.symm⟩
    · next scope segment shape =>
        rw [Bool.and_eq_true] at named
        rw [shape] at joined
        refine ⟨'@' :: scope ++ ['/'], segment, .inr ((scope_matches _).mpr ⟨scope, named.1, rfl⟩), named.2, ?_⟩
        simpa using joined.symm
    · simp at named
  · rintro ⟨front, segment, before, valid, rfl⟩
    have alone := Text.pieces_clear '/' segment (segment_excludes segment valid '/' (by decide))
    rcases before with rfl | leading
    · rw [List.nil_append, isName, alone]
      exact valid
    · obtain ⟨scope, proper, rfl⟩ := (scope_matches front).mp leading
      have cut := Text.pieces_append '/' ('@' :: scope) segment (scope_no_slash scope proper)
      rw [List.append_assoc, List.singleton_append, isName, cut, alone]
      simp [proper, valid]

-- One slash in front is dropped, and no more.
def Unslashed (text name : String) : Prop := text = "/" ++ name ∨ text = name ∧ text.toList.head? ≠ some '/'

theorem unslashed (text : String) : Unslashed text (Text.dropLeading '/' text) := by
  rw [Text.dropLeading]
  split
  · next head rest shape =>
      by_cases slash : head = '/'
      · exact .inl (String.toList_inj.mp (by simp [shape, slash]))
      · exact .inr ⟨by rw [if_neg slash], by simp [shape, slash]⟩
  · next empty => exact .inr ⟨rfl, by simp [empty]⟩

structure Acceptable (name : String) : Prop where
  present : 1 ≤ name.utf8ByteSize
  short : name.utf8ByteSize ≤ 214
  formed : name.toList ∈ namePattern.matches'

structure SafeComponent (name : String) : Prop where
  present : name ≠ ""
  noSlash : '/' ∉ name.toList
  noNul : '\x00' ∉ name.toList
  notHere : name ≠ "."
  notAbove : name ≠ ".."

theorem segment_safe (name : String) (valid : isSegment name.toList = true) : SafeComponent name where
  present := by
    rintro rfl
    exact absurd valid (by decide)
  noSlash := segment_excludes _ valid '/' (by decide)
  noNul := segment_excludes _ valid '\x00' (by decide)
  notHere := by
    rintro rfl
    exact absurd valid (by decide)
  notAbove := by
    rintro rfl
    exact absurd valid (by decide)

-- The text behind the last slash is a segment, and all before it the scope.
structure ShortName (name short : String) : Prop where
  last : ∃ scope, IsScope scope ∧ name.toList = scope ++ short.toList
  segment : short.toList ∈ segmentPattern.matches'
  safe : SafeComponent short

theorem short_name_last (name : PackageName) : ShortName name.text name.shortName := by
  obtain ⟨front, segment, before, valid, shape⟩ := (name_matches _).mp ((name_in_grammar _).mp name.well_formed)
  have clear := segment_excludes segment valid '/' (by decide)
  have tail : name.shortName = String.ofList segment := by
    rw [shortName, Text.after_last_iff, String.toList_ofList]
    refine ⟨clear, ?_⟩
    rcases before with rfl | leading
    · exact .inl (String.toList_inj.mp (by simpa using shape))
    · obtain ⟨scope, _, rfl⟩ := (scope_matches front).mp leading
      exact .inr ⟨'@' :: scope, by simpa using shape⟩
  have own : isSegment name.shortName.toList = true := by rwa [tail, String.toList_ofList]
  exact ⟨⟨front, before, by rw [shape, tail, String.toList_ofList]⟩, (segment_matches _).mpr own, segment_safe _ own⟩

-- Which defect a name is refused for; the first one counts.
def Refuses (name : String) : Defect → Prop
  | .empty => name = ""
  | .tooLong => 214 < name.utf8ByteSize
  | .malformed text => text = name ∧ name ≠ "" ∧ name.utf8ByteSize ≤ 214 ∧ name.toList ∉ namePattern.matches'

theorem parse_refused (text : String) (defect : Defect) (refused : parse text = .error defect) :
    Refuses (Text.dropLeading '/' text) defect := by
  simp only [parse] at refused
  split at refused
  · next empty =>
      cases refused
      exact empty
  · next present =>
      split at refused
      · next short =>
          split at refused
          · cases refused
          · next malformed =>
              cases refused
              exact ⟨rfl, present, short, fun formed => malformed ((name_in_grammar _).mpr formed)⟩
      · next long =>
          cases refused
          exact Nat.lt_of_not_le long

theorem refused_unacceptable (name : String) (defect : Defect) (refused : Refuses name defect) : ¬ Acceptable name := by
  intro acceptable
  cases defect with
  | empty =>
      have none : name.utf8ByteSize = 0 := by rw [show name = "" from refused, String.utf8ByteSize_empty]
      have present := acceptable.present
      omega
  | tooLong => exact absurd acceptable.short (Nat.not_le_of_lt refused)
  | malformed text => exact refused.2.2.2 acceptable.formed

theorem accepted_acceptable (name : PackageName) : Acceptable name.text where
  present := by
    have formed := name.well_formed
    refine Nat.pos_of_ne_zero fun none => ?_
    rw [String.utf8ByteSize_eq_zero_iff.mp none] at formed
    exact absurd formed (by decide)
  short := name.short_enough
  formed := (name_in_grammar _).mp name.well_formed

theorem names_of_grammar (text : String) : ∃ name, Unslashed text name ∧
    ((∃ package, parse text = .ok package) ↔ Acceptable name) ∧
    (∀ package, parse text = .ok package →
      package.text = name ∧ parse package.text = .ok package ∧ ShortName package.text package.shortName) ∧
    (¬ Acceptable name → ∃ defect, parse text = .error defect ∧ Refuses name defect ∧
      ∃ reason, defect.fault = .validation "package_name" reason) := by
  refine ⟨Text.dropLeading '/' text, unslashed text, ?_, ?_, ?_⟩
  · constructor
    · rintro ⟨package, parsed⟩
      exact parse_ok text package parsed ▸ accepted_acceptable package
    · intro acceptable
      cases outcome : parse text with
      | ok package => exact ⟨package, rfl⟩
      | error defect => exact absurd acceptable (refused_unacceptable _ defect (parse_refused text defect outcome))
  · exact fun package parsed => ⟨parse_ok text package parsed, parse_own_text package, short_name_last package⟩
  · intro unacceptable
    cases outcome : parse text with
    | ok package => exact absurd (parse_ok text package outcome ▸ accepted_acceptable package) unacceptable
    | error defect => exact ⟨defect, rfl, parse_refused text defect outcome, defect.reason, rfl⟩

end ClientPackager.PackageName
