import ClientPackager.Proofs.TypeExpr.Spelling

set_option autoImplicit false

namespace ClientPackager.TypeExpr

-- The characters of one token. A character that belongs to no token of the
-- language counts as one by itself.
inductive Writes : List Char → Token → Prop where
  | mark (c : Char) (token : Token) (listed : (c, token) ∈ marks) : Writes [c] token
  | stray (c : Char) (outside : Token.isWordChar c = false) (solid : Text.isBlank c = false)
      (unlisted : ∀ token, (c, token) ∉ marks) : Writes [c] (.stray c)
  | word (word : List Char) (present : word ≠ []) (own : ∀ c ∈ word, Token.isWordChar c = true) :
      Writes word (.word (String.ofList word))

-- Where the tokens of a text stand that itself stands behind some bytes.
inductive Lexes : Nat → List Char → List Lexeme → Prop where
  | nil (offset : Nat) : Lexes offset [] []
  | blank (offset : Nat) (c : Char) (cs : List Char) (lexemes : List Lexeme) (white : Text.isBlank c = true)
      (rest : Lexes (offset + c.utf8Size) cs lexemes) : Lexes offset (c :: cs) lexemes
  | token (offset : Nat) (own cs : List Char) (token : Token) (lexemes : List Lexeme) (written : Writes own token)
      (maximal : ∀ name, token = .word name → EndsWord cs) (rest : Lexes (offset + byteSize own) cs lexemes) :
      Lexes offset (own ++ cs) (⟨token, offset⟩ :: lexemes)

theorem byte_size_cons (c : Char) (cs : List Char) : byteSize (c :: cs) = c.utf8Size + byteSize cs := rfl

theorem byte_size_append (front back : List Char) : byteSize (front ++ back) = byteSize front + byteSize back := by
  induction front with
  | nil => simp [byteSize, total]
  | cons c rest ih => rw [List.cons_append, byte_size_cons, byte_size_cons, ih, Nat.add_assoc]

theorem byte_size_reverse (cs : List Char) : byteSize cs.reverse = byteSize cs := by
  induction cs with
  | nil => rfl
  | cons c rest ih =>
      rw [List.reverse_cons, byte_size_append, ih, byte_size_cons, byte_size_cons, Nat.add_comm]
      rfl

theorem byte_size_utf8 (cs : List Char) : byteSize cs = (String.ofList cs).utf8ByteSize := by
  induction cs with
  | nil => rfl
  | cons c rest ih =>
      have split : String.ofList (c :: rest) = String.singleton c ++ String.ofList rest := by
        apply String.toList_inj.mp
        simp
      rw [split, String.utf8ByteSize_append, byte_size_cons, ih, String.utf8ByteSize_singleton]

theorem single_written (c : Char) (outside : Token.isWordChar c = false) (solid : Text.isBlank c = false) :
    Writes [c] (Token.ofChar c) ∧ ∀ name, Token.ofChar c ≠ .word name := by
  by_cases listed : ∃ token, (c, token) ∈ marks
  · obtain ⟨token, member⟩ := listed
    rw [(mark_facts (c, token) member).2.2]
    refine ⟨.mark c token member, ?_⟩
    rintro name rfl
    simp [marks] at member
  · have unlisted : ∀ token, (c, token) ∉ marks := not_exists.mp listed
    have none : Token.ofChar c = .stray c := by
      simp only [marks, List.mem_cons, Prod.mk.injEq, List.not_mem_nil, or_false, not_or, not_and] at unlisted
      simp only [Token.ofChar]
      grind
    rw [none]
    exact ⟨.stray c outside solid unlisted, by simp⟩

-- A word that is open ends here.
theorem open_word_lexed (offset : Nat) (word cs : List Char) (lexemes : List Lexeme)
    (own : ∀ c ∈ word, Token.isWordChar c = true) (behind : byteSize word ≤ offset) (ends : EndsWord cs)
    (rest : Lexes offset cs lexemes) :
    Lexes (offset - byteSize word) (word.reverse ++ cs) (Lexeme.ofWord offset word ++ lexemes) := by
  by_cases empty : word = []
  · simpa [Lexeme.ofWord, empty, byteSize, total] using rest
  · rw [Lexeme.ofWord, if_neg empty]
    apply Lexes.token _ word.reverse cs _ lexemes (.word _ (by simpa using empty) (by simpa using own)) fun _ _ => ends
    rwa [byte_size_reverse, Nat.sub_add_cancel behind]

theorem scan_lexed (offset : Nat) (word cs : List Char) (own : ∀ c ∈ word, Token.isWordChar c = true)
    (behind : byteSize word ≤ offset) :
    Lexes (offset - byteSize word) (word.reverse ++ cs) (Lexeme.scan offset word cs) := by
  induction cs generalizing offset word with
  | nil =>
      rw [Lexeme.scan, ← List.append_nil (Lexeme.ofWord offset word)]
      exact open_word_lexed offset word [] [] own behind ends_word_nil (.nil offset)
  | cons c rest ih =>
      by_cases inWord : Token.isWordChar c
      · have longer : ∀ d ∈ c :: word, Token.isWordChar d = true := by simpa [inWord] using own
        have further := ih (offset + c.utf8Size) (c :: word) longer (by rw [byte_size_cons]; omega)
        have start : offset + c.utf8Size - byteSize (c :: word) = offset - byteSize word := by
          rw [byte_size_cons]
          omega
        rw [start] at further
        simpa [Lexeme.scan, inWord] using further
      · have outside : Token.isWordChar c = false := by simpa using inWord
        have ends := ends_word_cons c rest outside
        have later := ih (offset + c.utf8Size) [] (by simp) (Nat.zero_le _)
        rw [Lexeme.scan, if_neg inWord]
        by_cases white : Text.isBlank c
        · rw [if_pos white]
          exact open_word_lexed offset word _ _ own behind ends (.blank offset c rest _ white later)
        · rw [if_neg white]
          obtain ⟨written, wordless⟩ := single_written c outside (by simpa using white)
          have single := Lexes.token offset [c] rest _ _ written (fun name same => absurd same (wordless name)) later
          exact open_word_lexed offset word _ _ own behind ends single

theorem text_lexed (text : String) : Lexes 0 text.toList (Lexeme.ofText text) :=
  scan_lexed 0 [] text.toList (by simp) (Nat.zero_le _)

theorem written_solid (own : List Char) (token : Token) (written : Writes own token) :
    ∃ c rest, own = c :: rest ∧ Text.isBlank c = false := by
  cases written with
  | mark c token listed => exact ⟨c, [], rfl, (mark_facts (c, token) listed).2.1⟩
  | stray c _ solid _ => exact ⟨c, [], rfl, solid⟩
  | word word present own =>
      obtain ⟨c, rest, rfl⟩ := List.exists_cons_of_ne_nil present
      refine ⟨c, rest, rfl, ?_⟩
      cases white : Text.isBlank c with
      | false => rfl
      | true => simpa [own c List.mem_cons_self] using blank_outside_words c white

-- A text is cut in front of any of its tokens, with the bytes before it being
-- those that its offset counts.
theorem lexed_cut (offset : Nat) (cs : List Char) (front back : List Lexeme) (lexeme : Lexeme)
    (lexed : Lexes offset cs (front ++ lexeme :: back)) : ∃ before after, cs = before ++ after ∧
      lexeme.offset = offset + byteSize before ∧ Lexes offset before front ∧
      Lexes lexeme.offset after (lexeme :: back) ∧ ∃ c rest, after = c :: rest ∧ Text.isBlank c = false := by
  generalize whole : front ++ lexeme :: back = lexemes at lexed
  induction lexed generalizing front with
  | nil offset => simp at whole
  | blank offset c cs lexemes white rest ih =>
      obtain ⟨before, after, rfl, counted, first, second, solid⟩ := ih front whole
      refine ⟨c :: before, after, rfl, ?_, .blank offset c before front white first, second, solid⟩
      rw [counted, byte_size_cons, Nat.add_assoc]
  | token offset own cs token lexemes written maximal rest ih =>
      cases front with
      | nil =>
          obtain ⟨rfl, rfl⟩ := List.cons.inj whole
          obtain ⟨c, others, rfl, solid⟩ := written_solid own token written
          exact ⟨[], c :: others ++ cs, rfl, rfl, .nil offset,
            .token offset (c :: others) cs token _ written maximal rest, c, others ++ cs, rfl, solid⟩
      | cons here others =>
          obtain ⟨rfl, later⟩ := List.cons.inj whole
          obtain ⟨before, after, rfl, counted, first, second, solid⟩ := ih others later
          have ends : ∀ name, token = .word name → EndsWord before := by
            intro name same c head
            obtain ⟨more, rfl⟩ := List.head?_eq_some_iff.mp head
            exact maximal name same c rfl
          refine ⟨own ++ before, after, by rw [List.append_assoc], ?_,
            .token offset own before token others written ends first, second, solid⟩
          rw [counted, byte_size_append, Nat.add_assoc]

end ClientPackager.TypeExpr
