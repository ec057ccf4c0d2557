import Mathlib.Data.List.Forall2
import ClientPackager.Client.Identifier

set_option autoImplicit false

namespace ClientPackager.Client

theorem reserved_letters : ∀ word ∈ reservedWords,
    word.toList.all (fun c => isIdentifierChar c && !c.isDigit && c != '_') = true := by
  decide +kernel

theorem reserved_characters (name : String) (reserved : isReserved name = true) :
    ∀ c ∈ name.toList, isIdentifierChar c = true ∧ c.isDigit = false ∧ c ≠ '_' := by
  have listed : name ∈ reservedWords := by simpa [isReserved] using reserved
  intro c member
  simpa [and_assoc] using List.all_eq_true.mp (reserved_letters name listed) c member

theorem alias_not_reserved (name : String) : isReserved (name ++ "_") = false := by
  by_contra reserved
  exact (reserved_characters (name ++ "_") (by simpa using reserved) '_' (by simp)).2.2 rfl

theorem identifier_unreserved (name : String) : isReserved (identifier name) = false := by
  simp only [identifier]
  split
  · exact alias_not_reserved _
  · next free => simpa using free

def shownAs (c : Char) : Char := if isIdentifierChar c then c else '_'

-- What an identifier shows as an underscore.
def Underscored (c : Char) : Prop := c = '_' ∨ isIdentifierChar c = false

def Alike (name other : List Char) : Prop := List.Forall₂ (fun c d => c = d ∨ Underscored c ∧ Underscored d) name other

-- What gets an underscore in front.
def Unprotected (cs : List Char) : Prop := cs = [] ∨ ∃ c rest, cs = c :: rest ∧ c.isDigit = true

-- A name that has at some place what another one is given there.
inductive Merges : List Char → List Char → Prop where
  | alike (name other : List Char) (same : Alike name other) : Merges name other
  | front (c : Char) (rest other : List Char) (shown : Underscored c) (same : Alike rest other)
      (bare : Unprotected other) : Merges (c :: rest) other
  | behind (word : String) (c : Char) (reserved : isReserved word = true) (shown : Underscored c) :
      Merges (word.toList ++ [c]) word.toList

def Clash (name other : String) : Prop := Merges name.toList other.toList ∨ Merges other.toList name.toList

theorem shown_same_iff (c d : Char) : shownAs c = shownAs d ↔ c = d ∨ Underscored c ∧ Underscored d := by
  by_cases own : isIdentifierChar c = true <;> by_cases kept : isIdentifierChar d = true
  · simp only [shownAs, Underscored, own, kept, if_true, Bool.true_eq_false, or_false]
    exact ⟨.inl, fun same => same.elim id fun both => both.1.trans both.2.symm⟩
  · have apart : c ≠ d := fun same => kept (same ▸ own)
    simp [shownAs, Underscored, own, kept, apart]
  · have apart : c ≠ d := fun same => own (same ▸ kept)
    simp [shownAs, Underscored, own, kept, apart, eq_comm]
  · simp [shownAs, Underscored, own, kept]

theorem shown_underscore_iff (c : Char) : shownAs c = '_' ↔ Underscored c := by
  by_cases own : isIdentifierChar c = true <;> simp [shownAs, Underscored, own]

theorem replace_map (cs : List Char) : replaceForeign cs = cs.map shownAs := rfl

theorem replace_cons (c : Char) (rest : List Char) :
    replaceForeign (c :: rest) = shownAs c :: replaceForeign rest := rfl

theorem replaced_same_iff (name other : List Char) :
    replaceForeign name = replaceForeign other ↔ Alike name other := by
  rw [replace_map, replace_map, ← List.forall₂_eq_eq_eq, List.forall₂_map_left_iff, List.forall₂_map_right_iff]
  simp only [shown_same_iff, Alike]

theorem replaced_cons_iff (name other : List Char) : replaceForeign name = '_' :: replaceForeign other ↔
    ∃ c rest, name = c :: rest ∧ Underscored c ∧ Alike rest other := by
  cases name with
  | nil => simp [replaceForeign]
  | cons c rest =>
      rw [replace_cons, List.cons_eq_cons, shown_underscore_iff, replaced_same_iff]
      constructor
      · exact fun both => ⟨c, rest, rfl, both⟩
      · rintro ⟨_, _, ⟨rfl, rfl⟩, both⟩
        exact both

theorem digit_kept (c : Char) (digit : c.isDigit = true) : isIdentifierChar c = true := by
  have ascii : c.toNat < 0x80 := by
    simp only [Char.isDigit, Bool.and_eq_true, decide_eq_true_eq] at digit
    exact Nat.lt_of_le_of_lt digit.2 (by decide)
  simp [isIdentifierChar, Text.isAlphanumeric_ascii ascii, Char.isAlphanum, digit]

theorem digit_shown (c : Char) : (shownAs c).isDigit = c.isDigit := by
  rw [shownAs]
  split
  · rfl
  · next foreign =>
      have solid : c.isDigit = false := by
        by_contra digit
        exact foreign (digit_kept c (by simpa using digit))
      rw [solid]
      rfl

theorem unprotected_replaced (cs : List Char) : Unprotected (replaceForeign cs) ↔ Unprotected cs := by
  cases cs with
  | nil => simp [Unprotected, replaceForeign]
  | cons c rest =>
      simp [Unprotected, replace_cons, digit_shown]

theorem protect_unprotected (cs : List Char) (bare : Unprotected cs) : protectStart cs = '_' :: cs := by
  rcases bare with rfl | ⟨c, rest, rfl, digit⟩
  · rfl
  · rw [protectStart, if_pos digit]

theorem protect_protected (cs : List Char) (safe : ¬ Unprotected cs) : protectStart cs = cs := by
  cases cs with
  | nil => exact absurd (.inl rfl) safe
  | cons c rest => rw [protectStart, if_neg fun digit => safe (.inr ⟨c, rest, rfl, digit⟩)]

theorem underscore_protects (cs : List Char) : ¬ Unprotected ('_' :: cs) := by
  rintro (none | ⟨c, rest, shape, digit⟩)
  · cases none
  · cases shape
    exact absurd digit (by decide)

theorem protected_same_iff (cs ds : List Char) : protectStart cs = protectStart ds ↔
    cs = ds ∨ (Unprotected ds ∧ cs = '_' :: ds) ∨ (Unprotected cs ∧ ds = '_' :: cs) := by
  by_cases first : Unprotected cs <;> by_cases second : Unprotected ds
  · rw [protect_unprotected cs first, protect_unprotected ds second, List.cons_inj_right]
    refine ⟨.inl, ?_⟩
    rintro (same | ⟨_, rfl⟩ | ⟨_, rfl⟩)
    · exact same
    · exact absurd first (underscore_protects ds)
    · exact absurd second (underscore_protects cs)
  · rw [protect_unprotected cs first, protect_protected ds second]
    refine ⟨fun same => .inr (.inr ⟨first, same.symm⟩), ?_⟩
    rintro (rfl | ⟨bare, _⟩ | ⟨_, rfl⟩)
    · exact absurd first second
    · exact absurd bare second
    · rfl
  · rw [protect_protected cs first, protect_unprotected ds second]
    refine ⟨fun same => .inr (.inl ⟨second, same⟩), ?_⟩
    rintro (rfl | ⟨_, rfl⟩ | ⟨bare, _⟩)
    · exact absurd second first
    · rfl
    · exact absurd bare first
  · rw [protect_protected cs first, protect_protected ds second]
    simp [first, second]

-- An identifier before a reserved word gets its underscore.
def stem (name : String) : String := String.ofList (protectStart (replaceForeign name.toList))

theorem identifier_of_stem (name : String) :
    identifier name = if isReserved (stem name) then stem name ++ "_" else stem name := rfl

theorem stem_same_iff (name other : String) : stem name = stem other ↔ Alike name.toList other.toList ∨
    (∃ c rest, name.toList = c :: rest ∧ Underscored c ∧ Alike rest other.toList ∧ Unprotected other.toList) ∨
    ∃ c rest, other.toList = c :: rest ∧ Underscored c ∧ Alike rest name.toList ∧ Unprotected name.toList := by
  rw [stem, stem, String.ofList_inj, protected_same_iff, replaced_same_iff, replaced_cons_iff, replaced_cons_iff,
    unprotected_replaced, unprotected_replaced]
  grind

theorem replaced_kept (cs : List Char) (kept : ∀ c ∈ cs, isIdentifierChar c = true) : replaceForeign cs = cs :=
  (List.map_congr_left fun c member => if_pos (kept c member)).trans (List.map_id' cs)

theorem unmarked_replaced (cs : List Char) (clear : '_' ∉ replaceForeign cs) : replaceForeign cs = cs :=
  replaced_kept cs fun c member => by_contra fun foreign => clear (List.mem_map.mpr ⟨c, member, if_neg foreign⟩)

theorem unmarked_protected (cs : List Char) (clear : '_' ∉ protectStart cs) : protectStart cs = cs := by
  refine protect_protected cs fun bare => clear ?_
  rw [protect_unprotected cs bare]
  exact List.mem_cons_self

theorem reserved_unmarked (word : String) (reserved : isReserved word = true) : '_' ∉ word.toList :=
  fun inside => (reserved_characters word reserved '_' inside).2.2 rfl

theorem reserved_leads (word : String) (reserved : isReserved word = true) (ending : List Char) :
    ¬ Unprotected (word.toList ++ ending) ∧ (word.toList ++ ending).head? ≠ some '_' := by
  have letters := reserved_characters word reserved
  cases shape : word.toList with
  | nil =>
      rw [String.toList_eq_nil_iff.mp shape] at reserved
      exact absurd reserved (by decide)
  | cons c rest =>
      obtain ⟨_, solid, plain⟩ := letters c (by simp [shape])
      exact ⟨by simp [Unprotected, solid], by simpa using plain⟩

theorem reserved_shown (word : String) (reserved : isReserved word = true) : replaceForeign word.toList = word.toList :=
  replaced_kept _ fun c member => (reserved_characters word reserved c member).1

theorem stem_of_reserved (name : String) (reserved : isReserved name = true) : stem name = name := by
  have safe := (reserved_leads name reserved []).1
  rw [List.append_nil] at safe
  rw [stem, reserved_shown name reserved, protect_protected _ safe, String.ofList_toList]

theorem alias_of_reserved (name : String) (reserved : isReserved name = true) : identifier name = name ++ "_" := by
  rw [identifier_of_stem, stem_of_reserved name reserved, if_pos reserved]

-- A stem is a reserved word only if the name itself is.
theorem stem_reserved (name : String) (reserved : isReserved (stem name) = true) : stem name = name := by
  have clear := reserved_unmarked (stem name) reserved
  rw [stem, String.toList_ofList] at clear
  have started := unmarked_protected _ clear
  rw [started] at clear
  rw [stem, started, unmarked_replaced _ clear, String.ofList_toList]

theorem stem_suffixed_iff (name word : String) (reserved : isReserved word = true) :
    stem name = word ++ "_" ↔ ∃ c, name.toList = word.toList ++ [c] ∧ Underscored c := by
  have leads := reserved_leads word reserved ['_']
  have shown : stem name = word ++ "_" ↔ replaceForeign name.toList = word.toList ++ ['_'] := by
    rw [← String.toList_inj, stem, String.toList_ofList, String.toList_append]
    constructor
    · intro same
      by_cases bare : Unprotected (replaceForeign name.toList)
      · rw [protect_unprotected _ bare] at same
        exact absurd (congrArg List.head? same).symm leads.2
      · rwa [protect_protected _ bare] at same
    · intro same
      rw [same, protect_protected _ leads.1]
      rfl
  rw [shown]
  constructor
  · intro same
    obtain ⟨front, last, split, before, ending⟩ := List.map_eq_append_iff.mp same
    obtain ⟨c, rfl, underscore⟩ := List.map_eq_singleton_iff.mp ending
    have whole := unmarked_replaced front (by rw [replaceForeign, before]; exact reserved_unmarked word reserved)
    rw [replaceForeign, before] at whole
    exact ⟨c, by rw [split, whole], (shown_underscore_iff c).mp underscore⟩
  · rintro ⟨c, split, underscored⟩
    rw [split, replace_map, List.map_append, List.map_singleton, (shown_underscore_iff c).mpr underscored]
    exact congrArg (· ++ ['_']) (reserved_shown word reserved)

theorem identifier_same_stem (name other : String) : identifier name = identifier other ↔ stem name = stem other ∨
    (isReserved (stem name) = true ∧ stem other = stem name ++ "_") ∨
    isReserved (stem other) = true ∧ stem name = stem other ++ "_" := by
  have apart (word : String) (reserved : isReserved word = true) (later : String) : word ≠ later ++ "_" := by
    rintro rfl
    rw [alias_not_reserved] at reserved
    cases reserved
  rw [identifier_of_stem, identifier_of_stem]
  cases first : isReserved (stem name) <;> cases second : isReserved (stem other)
  · simp
  · have free : stem name ≠ stem other := fun same => by simp [same, second] at first
    simp [free]
  · have free : stem name ≠ stem other := fun same => by simp [same, second] at first
    simp [free, eq_comm]
  · simp [apart _ first, apart _ second]

theorem merges_iff (name other : String) : Merges name.toList other.toList ↔ Alike name.toList other.toList ∨
    (∃ c rest, name.toList = c :: rest ∧ Underscored c ∧ Alike rest other.toList ∧ Unprotected other.toList) ∨
    isReserved other = true ∧ ∃ c, name.toList = other.toList ++ [c] ∧ Underscored c := by
  constructor
  · intro merges
    generalize front : name.toList = cs at merges
    generalize back : other.toList = ds at merges
    cases merges with
    | alike _ _ same => exact .inl same
    | front c rest _ shown same bare => exact .inr (.inl ⟨c, rest, rfl, shown, same, bare⟩)
    | behind word c reserved shown =>
        rw [String.toList_inj.mp back]
        exact .inr (.inr ⟨reserved, c, rfl, shown⟩)
  · rintro (same | ⟨c, rest, shape, shown, same, bare⟩ | ⟨reserved, c, shape, shown⟩)
    · exact .alike _ _ same
    · exact shape ▸ .front c rest _ shown same bare
    · exact shape ▸ .behind other c reserved shown

theorem suffixed_iff (name other : String) : (isReserved (stem other) = true ∧ stem name = stem other ++ "_") ↔
    isReserved other = true ∧ ∃ c, name.toList = other.toList ++ [c] ∧ Underscored c := by
  constructor
  · rintro ⟨reserved, suffixed⟩
    have own := stem_reserved other reserved
    rw [own] at reserved suffixed
    exact ⟨reserved, (stem_suffixed_iff name other reserved).mp suffixed⟩
  · rintro ⟨reserved, suffixed⟩
    rw [stem_of_reserved other reserved]
    exact ⟨reserved, (stem_suffixed_iff name other reserved).mpr suffixed⟩

theorem same_identifier_iff (name other : String) : identifier name = identifier other ↔ Clash name other := by
  have turned : Alike other.toList name.toList ↔ Alike name.toList other.toList := by
    rw [← replaced_same_iff, ← replaced_same_iff, eq_comm]
  rw [identifier_same_stem, stem_same_iff, suffixed_iff name other, suffixed_iff other name, Clash, merges_iff, merges_iff,
    turned]
  grind

end ClientPackager.Client
