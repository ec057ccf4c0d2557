import ClientPackager.Proofs.Client.Identifier
import ClientPackager.Proofs.Text.IdentifierCharacters

set_option autoImplicit false

namespace ClientPackager.Client

open Text (isAlphanumeric isDecimalDigit isIdContinue isIdStart)

-- The identifiers of ECMAScript. The properties hold the underscore as a character
-- that goes on, and the joiners of zero width.
def isStart (c : Char) : Bool := isIdStart c || c == '$' || c == '_'

def isPart (c : Char) : Bool := isIdContinue c || c == '$'

def Accepted (text : String) : Prop :=
  ∃ first rest, text.toList = first :: rest ∧ isStart first = true ∧ ∀ c ∈ rest, isPart c = true

def DigitLed (text : String) : Prop := ∃ c, text.toList.head? = some c ∧ isDecimalDigit c = true

-- What a name has to satisfy for its identifier to be one of ECMAScript. Only
-- letters and digits count: all else is replaced.
structure Fit (name : String) : Prop where
  first : ∀ c, name.toList.head? = some c → isAlphanumeric c = true → c.isDigit = true ∨ isIdStart c = true
  each : ∀ c ∈ name.toList, isAlphanumeric c = true → isIdContinue c = true

theorem marks_kept : isPart '_' = true ∧ isPart '$' = true ∧ isAlphanumeric '_' = false ∧ isAlphanumeric '$' = false := by
  decide +kernel

theorem part_shown_iff (c : Char) :
    isPart (shownAs c) = true ↔ (isAlphanumeric c = true → isIdContinue c = true) := by
  obtain ⟨underscore, dollar, low, money⟩ := marks_kept
  by_cases letter : isAlphanumeric c = true
  · have plain : c ≠ '$' := fun same => by simp [same, money] at letter
    simp [shownAs, isIdentifierChar, letter, isPart, plain]
  · rw [shownAs]
    split
    · next own =>
        have mark : c = '_' ∨ c = '$' := by simpa [isIdentifierChar, letter] using own
        rcases mark with rfl | rfl
        · simp [underscore, low]
        · simp [dollar, money]
    · simp [underscore, letter]

theorem start_shown_iff (c : Char) :
    isStart (shownAs c) = true ↔ (isAlphanumeric c = true → isIdStart c = true) := by
  obtain ⟨_, _, low, money⟩ := marks_kept
  by_cases letter : isAlphanumeric c = true
  · have plain : c ≠ '$' := fun same => by simp [same, money] at letter
    have other : c ≠ '_' := fun same => by simp [same, low] at letter
    simp [shownAs, isIdentifierChar, letter, isStart, plain, other]
  · rw [shownAs]
    split
    · next own =>
        have mark : c = '_' ∨ c = '$' := by simpa [isIdentifierChar, letter] using own
        rcases mark with rfl | rfl <;> simp [isStart, low, money]
    · simp [isStart, letter]

theorem decimal_kept (c : Char) (decimal : isDecimalDigit c = true) : isIdentifierChar c = true := by
  by_cases ascii : c.toNat < 0x80
  · exact digit_kept c ((Text.decimal_ascii c ascii).mp decimal)
  · simp [isIdentifierChar, Text.decimal_alphanumeric c decimal (Nat.le_of_not_lt ascii)]

theorem decimal_shown (c : Char) : isDecimalDigit (shownAs c) = isDecimalDigit c := by
  rw [shownAs]
  split
  · rfl
  · next foreign =>
      have plain : isDecimalDigit c = false := by
        by_contra decimal
        exact foreign (decimal_kept c (by simpa using decimal))
      rw [plain]
      decide +kernel

theorem start_part (c : Char) (starts : isIdStart c = true) : isIdContinue c = true := by
  simp [isIdContinue, starts]

theorem accepted_cons (text : String) (first : Char) (rest : List Char) (shape : text.toList = first :: rest) :
    Accepted text ↔ isStart first = true ∧ ∀ c ∈ rest, isPart c = true := by
  rw [Accepted, shape]
  constructor
  · rintro ⟨_, _, ⟨rfl, rfl⟩, accepted⟩
    exact accepted
  · exact fun accepted => ⟨first, rest, rfl, accepted⟩

theorem digit_led_cons (text : String) (first : Char) (rest : List Char) (shape : text.toList = first :: rest) :
    DigitLed text ↔ isDecimalDigit first = true := by
  simp [DigitLed, shape]

theorem stem_shape (name : String) : (stem name).toList = match name.toList with
    | [] => ['_']
    | c :: rest => if c.isDigit then '_' :: replaceForeign (c :: rest) else replaceForeign (c :: rest) := by
  rw [stem, String.toList_ofList]
  cases name.toList with
  | nil => rfl
  | cons c rest =>
      simp only [replace_cons, protectStart, digit_shown]

-- An underscore at the end changes neither.
theorem accepted_stem (name : String) :
    (Accepted (identifier name) ↔ Accepted (stem name)) ∧ (DigitLed (identifier name) ↔ DigitLed (stem name)) := by
  obtain ⟨first, rest, shape⟩ : ∃ first rest, (stem name).toList = first :: rest := by
    have present : protectStart (replaceForeign name.toList) ≠ [] := by
      by_cases bare : Unprotected (replaceForeign name.toList)
      · simp [protect_unprotected _ bare]
      · rw [protect_protected _ bare]
        exact fun none => bare (.inl none)
    simpa [stem] using List.exists_cons_of_ne_nil present
  rw [identifier_of_stem]
  split
  · have longer : (stem name ++ "_").toList = first :: (rest ++ ['_']) := by simp [shape]
    have ending : isPart '_' = true := marks_kept.1
    rw [accepted_cons _ _ _ shape, accepted_cons _ _ _ longer, digit_led_cons _ _ _ shape, digit_led_cons _ _ _ longer]
    simp [or_imp, forall_and, ending]
  · exact ⟨Iff.rfl, Iff.rfl⟩

theorem parts_shown_iff (cs : List Char) : (∀ c ∈ replaceForeign cs, isPart c = true) ↔
    ∀ c ∈ cs, isAlphanumeric c = true → isIdContinue c = true := by
  simp only [replace_map, List.forall_mem_map, part_shown_iff]

theorem stem_accepted_iff (name : String) : Accepted (stem name) ↔ Fit name := by
  have shape := stem_shape name
  have underscore : isStart '_' = true := by simp [isStart]
  cases cs : name.toList with
  | nil =>
      rw [cs] at shape
      rw [accepted_cons _ _ _ shape]
      simp only [underscore, true_and]
      exact ⟨fun _ => ⟨by simp [cs], by simp [cs]⟩, by simp⟩
  | cons c rest =>
      rw [cs] at shape
      have fit : Fit name ↔ (isAlphanumeric c = true → c.isDigit = true ∨ isIdStart c = true) ∧
          ∀ d ∈ c :: rest, isAlphanumeric d = true → isIdContinue d = true :=
        ⟨fun fit => ⟨fit.first c (by simp [cs]), cs ▸ fit.each⟩,
          fun both => ⟨fun d leads => by simp [cs] at leads; exact leads ▸ both.1, cs ▸ both.2⟩⟩
      rw [fit]
      by_cases digit : c.isDigit = true
      · simp only [digit, if_true] at shape
        rw [accepted_cons _ _ _ shape, parts_shown_iff]
        simp [underscore, digit]
      · simp only [digit, Bool.false_eq_true, if_false] at shape
        rw [accepted_cons _ _ _ (shape.trans (replace_cons c rest)), start_shown_iff, parts_shown_iff]
        simp only [digit, Bool.false_eq_true, false_or, List.forall_mem_cons]
        exact and_congr_right fun starts => ⟨fun each => ⟨fun letter => start_part c (starts letter), each⟩, And.right⟩

theorem stem_digit_led_iff (name : String) : DigitLed (stem name) ↔
    ∃ c, name.toList.head? = some c ∧ isDecimalDigit c = true ∧ c.isDigit = false := by
  have shape := stem_shape name
  have underscore : isDecimalDigit '_' = false := by decide +kernel
  cases cs : name.toList with
  | nil =>
      rw [cs] at shape
      rw [digit_led_cons _ _ _ shape]
      simp [underscore]
  | cons c rest =>
      rw [cs] at shape
      by_cases digit : c.isDigit = true
      · simp only [digit, if_true] at shape
        rw [digit_led_cons _ _ _ shape]
        simp [underscore, digit]
      · simp only [digit, Bool.false_eq_true, if_false] at shape
        rw [digit_led_cons _ _ _ (shape.trans (replace_cons c rest)), decimal_shown]
        simp [digit]

theorem identifier_accepted_iff (name : String) :
    isReserved (identifier name) = false ∧ (Accepted (identifier name) ↔ Fit name) ∧
      (DigitLed (identifier name) ↔
        ∃ c, name.toList.head? = some c ∧ isDecimalDigit c = true ∧ c.isDigit = false) := by
  obtain ⟨accepted, led⟩ := accepted_stem name
  exact ⟨identifier_unreserved name, accepted.trans (stem_accepted_iff name), led.trans (stem_digit_led_iff name)⟩

-- The digit three of Arabic stays in front, and a small two on high stays behind.
theorem arabic_digit_leads_identifier :
    identifier "\u0663" = "\u0663" ∧ DigitLed (identifier "\u0663") ∧ ¬ Accepted (identifier "\u0663") ∧
      identifier "x\u00b2" = "x\u00b2" ∧ ¬ Accepted (identifier "x\u00b2") := by
  have three : identifier "\u0663" = "\u0663" := by decide +kernel
  have square : identifier "x\u00b2" = "x\u00b2" := by decide +kernel
  have digit : isDecimalDigit '\u0663' = true := by decide +kernel
  have first : isStart '\u0663' = false := by decide +kernel
  have last : isPart '\u00b2' = false := by decide +kernel
  rw [three, square, accepted_cons "\u0663" '\u0663' [] rfl, digit_led_cons "\u0663" '\u0663' [] rfl,
    accepted_cons "x\u00b2" 'x' ['\u00b2'] rfl]
  simp [digit, first, last]

end ClientPackager.Client
