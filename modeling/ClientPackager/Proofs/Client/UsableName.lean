import ClientPackager.Proofs.Client.Identifier

set_option autoImplicit false

namespace ClientPackager.Client

-- What the characters of an identifier are, whatever word they spell.
structure Spellable (name : String) : Prop where
  filled : name ≠ ""
  characters : ∀ c ∈ name.toList, isIdentifierChar c = true
  start : ∀ c, name.toList.head? = some c → c.isDigit = false

structure Usable (name : String) : Prop extends Spellable name where
  free : name ∉ reservedWords

theorem reserved_iff (name : String) : isReserved name = true ↔ name ∈ reservedWords := List.contains_iff_mem

theorem shown_identifier_char (c : Char) : isIdentifierChar (shownAs c) = true := by
  rw [shownAs]
  split
  · assumption
  · rfl

theorem replaced_characters (cs : List Char) : ∀ c ∈ replaceForeign cs, isIdentifierChar c = true := by
  rw [replace_map, List.forall_mem_map]
  exact fun c _ => shown_identifier_char c

-- An underscore in front is no digit, and what goes without one is not led by a
-- digit.
theorem protected_spellable (cs : List Char) (characters : ∀ c ∈ cs, isIdentifierChar c = true) :
    Spellable (String.ofList (protectStart cs)) := by
  by_cases bare : Unprotected cs
  · rw [protect_unprotected cs bare]
    refine ⟨by simp, ?_, by simp⟩
    rw [String.toList_ofList, List.forall_mem_cons]
    exact ⟨rfl, characters⟩
  · rw [protect_protected cs bare]
    refine ⟨fun none => bare (.inl (by simpa using none)), by simpa using characters, ?_⟩
    intro c head
    obtain ⟨rest, shape⟩ : ∃ rest, cs = c :: rest := List.head?_eq_some_iff.mp (by simpa using head)
    by_contra digit
    exact bare (.inr ⟨c, rest, shape, by simpa using digit⟩)

theorem stem_spellable (name : String) : Spellable (stem name) :=
  protected_spellable _ (replaced_characters name.toList)

theorem suffixed_spellable (name : String) (spellable : Spellable name) : Spellable (name ++ "_") := by
  obtain ⟨first, rest, shape⟩ := List.exists_cons_of_ne_nil fun none =>
    spellable.filled (String.toList_eq_nil_iff.mp none)
  have chars : (name ++ "_").toList = first :: (rest ++ ['_']) := by simp [shape]
  refine ⟨by simp, ?_, ?_⟩
  · rw [String.toList_append, List.forall_mem_append]
    exact ⟨spellable.characters, by simp [isIdentifierChar]⟩
  · intro c head
    rw [chars, List.head?_cons] at head
    exact spellable.start c (by rw [shape, List.head?_cons, head])

-- No reserved word ends in an underscore, so a word with one behind it is free.
theorem identifier_usable (name : String) : Usable (identifier name) := by
  have free : identifier name ∉ reservedWords := by
    rw [← reserved_iff, identifier_unreserved]
    simp
  refine ⟨?_, free⟩
  rw [identifier_of_stem]
  split
  · exact suffixed_spellable _ (stem_spellable name)
  · exact stem_spellable name

theorem stem_of_spellable (name : String) (spellable : Spellable name) : stem name = name := by
  have safe : ¬ Unprotected name.toList := by
    rintro (none | ⟨c, rest, shape, digit⟩)
    · exact spellable.filled (String.toList_eq_nil_iff.mp none)
    · have solid := spellable.start c (by rw [shape, List.head?_cons])
      rw [solid] at digit
      cases digit
  rw [stem, replaced_kept _ spellable.characters, protect_protected _ safe, String.ofList_toList]

theorem identifier_of_usable (name : String) (usable : Usable name) : identifier name = name := by
  rw [identifier_of_stem, stem_of_spellable name usable.toSpellable, if_neg]
  rw [reserved_iff]
  exact usable.free

theorem identifier_retracts (name : String) :
    ((∃ source, identifier source = name) ↔ Usable name) ∧ (identifier name = name ↔ Usable name) ∧
      identifier (identifier name) = identifier name := by
  refine ⟨⟨?_, fun usable => ⟨name, identifier_of_usable name usable⟩⟩, ⟨?_, identifier_of_usable name⟩,
    identifier_of_usable _ (identifier_usable name)⟩
  · rintro ⟨source, rfl⟩
    exact identifier_usable source
  · intro kept
    rw [← kept]
    exact identifier_usable name

end ClientPackager.Client
