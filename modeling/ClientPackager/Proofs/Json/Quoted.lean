import Mathlib.Data.Option.Basic
import ClientPackager.Json.Printer
import ClientPackager.Json.Reader

set_option autoImplicit false

namespace ClientPackager.Json

def readCode (code : Nat) (found : List Nat × List Char) : List Nat × List Char := (code :: found.1, found.2)

theorem codes_of_mark (mark : Char) (code : Nat) (rest : List Char) (short : mark ≠ 'u')
    (means : unescape mark = some code) :
    stringCodes ('\\' :: mark :: rest) = (stringCodes rest).map (readCode code) := by
  rw [stringCodes.eq_def]
  split
  · simp_all
  · simp_all
  · next found other _ same =>
      obtain ⟨rfl, rfl⟩ : mark = found ∧ rest = other := by simpa using same
      rw [means]
      cases stringCodes rest <;> rfl
  · next tail _ _ unmarked same =>
      obtain ⟨head, rest⟩ := List.cons.inj same
      exact (unmarked mark _ head.symm rest.symm).elim
  · simp_all

theorem codes_of_digits (code : Nat) (control : code < 0x20) (rest : List Char) :
    stringCodes ('\\' :: 'u' :: '0' :: '0' :: hexDigit (code / 16) :: hexDigit (code % 16) :: rest) =
      (stringCodes rest).map (readCode code) := by
  have digits : ∀ code < 0x20,
      Text.ofDigits? 16 ['0', '0', hexDigit (code / 16), hexDigit (code % 16)] = some code := by decide
  rw [stringCodes, digits code control]
  cases stringCodes rest <;> rfl

theorem codes_of_plain (c : Char) (rest : List Char) (noQuote : c ≠ '"') (noMark : c ≠ '\\') (shown : 0x20 ≤ c.toNat) :
    stringCodes (c :: rest) = (stringCodes rest).map (readCode c.toNat) := by
  rw [stringCodes.eq_def]
  split
  · simp_all
  · simp_all
  · simp_all
  · next first other _ _ _ same =>
      obtain ⟨rfl, rfl⟩ : c = first ∧ rest = other := by simpa using same
      simp only [shown, guard]
      cases stringCodes rest <;> rfl
  · simp_all

-- What a character is written as stands for its code, whatever follows.
theorem codes_of_escape (c : Char) (rest : List Char) :
    stringCodes (escape c ++ rest) = (stringCodes rest).map (readCode c.toNat) := by
  by_cases quote : c = '"'
  · simpa [escape, quote] using codes_of_mark '"' 0x22 rest (by decide) rfl
  by_cases mark : c = '\\'
  · simpa [escape, mark] using codes_of_mark '\\' 0x5c rest (by decide) rfl
  by_cases feed : c = '\n'
  · simpa [escape, feed] using codes_of_mark 'n' 0x0a rest (by decide) rfl
  by_cases back : c = '\r'
  · simpa [escape, back] using codes_of_mark 'r' 0x0d rest (by decide) rfl
  by_cases tab : c = '\t'
  · simpa [escape, tab] using codes_of_mark 't' 0x09 rest (by decide) rfl
  by_cases bell : c.toNat = 0x08
  · simpa [escape, quote, mark, feed, back, tab, bell] using codes_of_mark 'b' 0x08 rest (by decide) rfl
  by_cases page : c.toNat = 0x0c
  · simpa [escape, quote, mark, feed, back, tab, bell, page] using codes_of_mark 'f' 0x0c rest (by decide) rfl
  by_cases control : c.toNat < 0x20
  · simpa [escape, quote, mark, feed, back, tab, bell, page, control] using codes_of_digits c.toNat control rest
  · simpa [escape, quote, mark, feed, back, tab, bell, page, control] using
      codes_of_plain c rest quote mark (Nat.le_of_not_lt control)

theorem codes_of_quoted (cs rest : List Char) :
    stringCodes (cs.flatMap escape ++ '"' :: rest) = some (cs.map Char.toNat, rest) := by
  induction cs with
  | nil => rfl
  | cons c later ih =>
      rw [List.flatMap_cons, List.append_assoc, codes_of_escape, ih]
      rfl

theorem code_no_surrogate (c : Char) : isHighSurrogate c.toNat = false ∧ isLowSurrogate c.toNat = false := by
  have valid : c.toNat < 0xd800 ∨ 0xdfff < c.toNat ∧ c.toNat < 0x110000 := c.valid
  simp only [isHighSurrogate, isLowSurrogate, Bool.and_eq_false_imp, decide_eq_true_eq, decide_eq_false_iff_not]
  omega

theorem decode_codes (cs : List Char) : decodeCodes (cs.map Char.toNat) = some cs := by
  induction cs with
  | nil => rfl
  | cons c later ih =>
      obtain ⟨high, low⟩ := code_no_surrogate c
      cases later with
      | nil => simp [decodeCodes, high, low]
      | cons next others =>
          rw [List.map_cons] at ih
          simp [decodeCodes, high, low, ih]

theorem string_body (s : String) (rest : List Char) :
    stringBody (s.toList.flatMap escape ++ '"' :: rest) = some (some s, rest) := by
  rw [stringBody, codes_of_quoted]
  simp [decode_codes]

end ClientPackager.Json
