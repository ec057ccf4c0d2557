import ClientPackager.Proofs.TypeExpr.Grammar

set_option autoImplicit false

namespace ClientPackager.TypeExpr

def Token.isStray : Token → Bool
  | .stray _ => true
  | _ => false

-- The tokens of a text whose characters of an open word were read last.
def tokensFrom (word cs : List Char) : List Token := (Lexeme.scan 0 word cs).map Lexeme.token

def openWord (word : List Char) : List Token := if word = [] then [] else [.word (String.ofList word.reverse)]

theorem of_word_token (offset : Nat) (word : List Char) :
    (Lexeme.ofWord offset word).map Lexeme.token = openWord word := by
  by_cases empty : word = [] <;> simp [Lexeme.ofWord, openWord, empty]

-- Only offsets depend on where a text starts.
theorem scan_tokens (offset : Nat) (word cs : List Char) :
    (Lexeme.scan offset word cs).map Lexeme.token = tokensFrom word cs := by
  have anywhere (first second : Nat) : (Lexeme.scan first word cs).map Lexeme.token =
      (Lexeme.scan second word cs).map Lexeme.token := by
    induction cs generalizing first second word with
    | nil => simp only [Lexeme.scan, of_word_token]
    | cons c rest ih =>
        by_cases inWord : Token.isWordChar c
        · simpa only [Lexeme.scan, if_pos inWord] using ih (c :: word) _ _
        · by_cases white : Text.isBlank c
          · simp only [Lexeme.scan, if_neg inWord, if_pos white, List.map_append, of_word_token]
            rw [ih [] (first + c.utf8Size) (second + c.utf8Size)]
          · simp only [Lexeme.scan, if_neg inWord, if_neg white, List.map_append, of_word_token, List.map_cons]
            rw [ih [] (first + c.utf8Size) (second + c.utf8Size)]
  exact anywhere offset 0

theorem tokens_nil (word : List Char) : tokensFrom word [] = openWord word :=
  of_word_token 0 word

theorem tokens_word (word : List Char) (c : Char) (rest : List Char) (inWord : Token.isWordChar c = true) :
    tokensFrom word (c :: rest) = tokensFrom (c :: word) rest := by
  rw [tokensFrom, Lexeme.scan, if_pos inWord, scan_tokens]

theorem tokens_blank (word : List Char) (c : Char) (rest : List Char) (outside : Token.isWordChar c = false)
    (white : Text.isBlank c = true) : tokensFrom word (c :: rest) = openWord word ++ tokensFrom [] rest := by
  rw [tokensFrom, Lexeme.scan, if_neg (by simp [outside]), if_pos white, List.map_append, of_word_token, scan_tokens]

theorem tokens_mark (word : List Char) (c : Char) (rest : List Char) (outside : Token.isWordChar c = false)
    (solid : Text.isBlank c = false) :
    tokensFrom word (c :: rest) = openWord word ++ Token.ofChar c :: tokensFrom [] rest := by
  rw [tokensFrom, Lexeme.scan, if_neg (by simp [outside]), if_neg (by simp [solid]), List.map_append, of_word_token,
    List.map_cons, scan_tokens]

def blankCodes : List Nat :=
  [0x09, 0x0a, 0x0b, 0x0c, 0x0d, 0x20, 0x85, 0xa0, 0x1680, 0x2000, 0x2001, 0x2002, 0x2003, 0x2004, 0x2005, 0x2006,
    0x2007, 0x2008, 0x2009, 0x200a, 0x2028, 0x2029, 0x202f, 0x205f, 0x3000]

theorem blank_codes_outside_words : ∀ code ∈ blankCodes, Token.isWordChar (Char.ofNat code) = false := by
  decide +kernel

theorem blank_outside_words (c : Char) (white : Text.isBlank c = true) : Token.isWordChar c = false := by
  have code : c.toNat ∈ blankCodes := by
    simp only [Text.isBlank, Bool.or_eq_true, Bool.and_eq_true, decide_eq_true_eq, beq_iff_eq] at white
    simp only [blankCodes, List.mem_cons, List.not_mem_nil]
    omega
  have outside := blank_codes_outside_words c.toNat code
  rwa [Char.ofNat_toNat] at outside

theorem mark_facts : ∀ entry ∈ marks,
    Token.isWordChar entry.1 = false ∧ Text.isBlank entry.1 = false ∧ Token.ofChar entry.1 = entry.2 := by
  decide

theorem mark_listed (c : Char) (known : (Token.ofChar c).isStray = false) : (c, Token.ofChar c) ∈ marks := by
  by_cases listed : c ∈ marks.map Prod.fst
  · obtain ⟨entry, member, rfl⟩ := List.mem_map.mp listed
    rw [(mark_facts entry member).2.2]
    exact member
  · simp only [marks, List.map_cons, List.map_nil, List.mem_cons, List.not_mem_nil, not_or] at listed
    simp [Token.ofChar, listed, Token.isStray] at known

-- What has been read of a word and what a reader makes of the rest.
theorem open_word_spelled (word cs : List Char) (ts : List Token) (own : ∀ c ∈ word, Token.isWordChar c = true)
    (ends : EndsWord cs) (rest : Spells cs ts) : Spells (word.reverse ++ cs) (openWord word ++ ts) := by
  by_cases empty : word = []
  · simpa [openWord, empty] using rest
  · rw [openWord, if_neg empty]
    exact .word word.reverse cs ts (by simpa using empty) (by simpa using own) ends rest

theorem ends_word_nil : EndsWord [] := by
  intro c first
  simp at first

theorem ends_word_cons (c : Char) (rest : List Char) (outside : Token.isWordChar c = false) : EndsWord (c :: rest) := by
  intro first same
  exact Option.some.inj same ▸ outside

theorem tokens_spelled (word cs : List Char) (own : ∀ c ∈ word, Token.isWordChar c = true)
    (known : ∀ token ∈ tokensFrom word cs, token.isStray = false) :
    Spells (word.reverse ++ cs) (tokensFrom word cs) := by
  induction cs generalizing word with
  | nil =>
      rw [tokens_nil, ← List.append_nil (openWord word)]
      exact open_word_spelled word [] [] own ends_word_nil .nil
  | cons c rest ih =>
      by_cases inWord : Token.isWordChar c
      · rw [tokens_word word c rest inWord] at known ⊢
        have longer : ∀ d ∈ c :: word, Token.isWordChar d = true := by
          simpa [inWord] using own
        simpa using ih (c :: word) longer known
      · have outside : Token.isWordChar c = false := by simpa using inWord
        have ends := ends_word_cons c rest outside
        by_cases white : Text.isBlank c
        · rw [tokens_blank word c rest outside white] at known ⊢
          have later := ih [] (by simp) fun token member => known token (List.mem_append_right _ member)
          exact open_word_spelled word (c :: rest) _ own ends (.blank c rest _ white later)
        · rw [tokens_mark word c rest outside (by simpa using white)] at known ⊢
          have later := ih [] (by simp) fun token member =>
            known token (List.mem_append_right _ (List.mem_cons_of_mem _ member))
          have listed := mark_listed c (known _ (List.mem_append_right _ List.mem_cons_self))
          exact open_word_spelled word (c :: rest) _ own ends (.mark c _ rest _ listed later)

theorem tokens_of_word (read word cs : List Char) (own : ∀ c ∈ word, Token.isWordChar c = true) :
    tokensFrom read (word ++ cs) = tokensFrom (word.reverse ++ read) cs := by
  induction word generalizing read with
  | nil => rfl
  | cons c rest ih =>
      rw [List.cons_append, tokens_word read c (rest ++ cs) (own c List.mem_cons_self),
        ih (c :: read) fun d member => own d (List.mem_cons_of_mem c member)]
      simp

theorem tokens_behind_word (word cs : List Char) (ends : EndsWord cs) :
    tokensFrom word cs = openWord word ++ tokensFrom [] cs := by
  cases cs with
  | nil => simp [tokens_nil, openWord]
  | cons c rest =>
      have outside := ends c rfl
      by_cases white : Text.isBlank c
      · rw [tokens_blank word c rest outside white, tokens_blank [] c rest outside white]
        rfl
      · have solid : Text.isBlank c = false := by simpa using white
        rw [tokens_mark word c rest outside solid, tokens_mark [] c rest outside solid]
        rfl

theorem spelled_tokens (cs : List Char) (ts : List Token) (spelled : Spells cs ts) : tokensFrom [] cs = ts := by
  induction spelled with
  | nil => rfl
  | blank c cs ts white _ ih =>
      rw [tokens_blank [] c cs (blank_outside_words c white) white, ih]
      rfl
  | mark c token cs ts listed _ ih =>
      obtain ⟨outside, solid, same⟩ := mark_facts (c, token) listed
      rw [tokens_mark [] c cs outside solid, same, ih]
      rfl
  | word word cs ts present own maximal _ ih =>
      rw [tokens_of_word [] word cs own, tokens_behind_word _ cs maximal, ih, openWord, if_neg (by simpa using present)]
      simp

theorem marks_known : ∀ entry ∈ marks, entry.2.isStray = false := by
  decide

theorem spelled_known (cs : List Char) (ts : List Token) (spelled : Spells cs ts) :
    ∀ token ∈ ts, token.isStray = false := by
  induction spelled with
  | nil => simp
  | blank _ _ _ _ _ ih => exact ih
  | mark c token cs ts listed _ ih => exact List.forall_mem_cons.mpr ⟨marks_known (c, token) listed, ih⟩
  | word word cs ts _ _ _ _ ih => exact List.forall_mem_cons.mpr ⟨rfl, ih⟩

-- The reader of tokens finds the one way to spell a text, if there is one.
theorem spells_iff (text : String) (ts : List Token) :
    Spells text.toList ts ↔
      (Lexeme.ofText text).map Lexeme.token = ts ∧ ∀ token ∈ ts, token.isStray = false := by
  constructor
  · intro spelled
    exact ⟨spelled_tokens text.toList ts spelled, spelled_known text.toList ts spelled⟩
  · rintro ⟨rfl, known⟩
    exact tokens_spelled [] text.toList (by simp) known

end ClientPackager.TypeExpr
