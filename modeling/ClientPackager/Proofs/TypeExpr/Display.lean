import ClientPackager.Proofs.TypeExpr.Reading

set_option autoImplicit false

namespace ClientPackager.TypeExpr

def IsWord (name : String) : Prop := name.toList ≠ [] ∧ ∀ c ∈ name.toList, Token.isWordChar c = true

-- The trees that texts stand for: the empty tuple is whole by itself, and any
-- other name is a word.
inductive WellFormed : TypeExpr → Prop where
  | unit : WellFormed ⟨"()", [], 0⟩
  | named (name : String) (args : List TypeExpr) (dims : Nat) (word : IsWord name)
      (inner : ∀ arg ∈ args, WellFormed arg) : WellFormed ⟨name, args, dims⟩

theorem spelled_words (cs : List Char) (ts : List Token) (spelled : Spells cs ts) (name : String)
    (listed : .word name ∈ ts) : IsWord name := by
  induction spelled with
  | nil => simp at listed
  | blank _ _ _ _ _ ih => exact ih listed
  | mark c token cs ts known _ ih =>
      rcases List.mem_cons.mp listed with rfl | later
      · simp [marks] at known
      · exact ih later
  | word word cs ts present own _ _ ih =>
      rcases List.mem_cons.mp listed with same | later
      · obtain rfl := Token.word.inj same
        simpa [IsWord] using And.intro present own
      · exact ih later

theorem anything_is_word : IsWord "java.lang.Object" := by
  have ascii : "java.lang.Object".toList.all
      (fun c => c.toNat < 0x80 && (c.isAlphanum || c == '_' || c == '.' || c == '$')) = true := rfl
  rw [List.all_eq_true] at ascii
  refine ⟨by simp, fun c listed => ?_⟩
  obtain ⟨small, fits⟩ := Bool.and_eq_true_iff.mp (ascii c listed)
  rwa [Token.isWordChar, Text.isAlphanumeric_ascii (of_decide_eq_true small)]

mutual
theorem derived_well_formed : ∀ (ts : List Token) (expr : TypeExpr), Derives ts expr →
    (∀ name, .word name ∈ ts → IsWord name) → WellFormed expr
  | _, _, .unit, _ => .unit
  | _, _, .wildcard, _ => .named _ [] 0 anything_is_word (by simp)
  | _, _, .bounded bound inside expr _ inner, words =>
      derived_well_formed inside expr inner fun name listed =>
        words name (List.mem_cons_of_mem _ (List.mem_cons_of_mem _ listed))
  | _, _, .plain name dims, words => .named name [] dims (words name List.mem_cons_self) (by simp)
  | _, _, .generic name inside args dims inner, words =>
      .named name args dims (words name List.mem_cons_self) <|
        all_derived_well_formed inside args inner fun other listed =>
          words other (List.mem_cons_of_mem _ (List.mem_cons_of_mem _ (List.mem_append_left _ listed)))
theorem all_derived_well_formed : ∀ (ts : List Token) (args : List TypeExpr), DerivesAll ts args →
    (∀ name, .word name ∈ ts → IsWord name) → ∀ arg ∈ args, WellFormed arg
  | ts, _, .last _ arg only, words => by
      simpa using derived_well_formed ts arg only words
  | _, _, .more own later arg args first rest, words => by
      have front := derived_well_formed own arg first fun name listed => words name (List.mem_append_left _ listed)
      have back := all_derived_well_formed later args rest fun name listed =>
        words name (List.mem_append_right _ (List.mem_cons_of_mem _ listed))
      exact List.forall_mem_cons.mpr ⟨front, back⟩
end

theorem parsed_well_formed (text : String) (expr : TypeExpr) (parsed : parse text = .ok expr) : WellFormed expr := by
  obtain ⟨ts, spelled, derived⟩ := (parse_ok_iff text expr).mp parsed
  exact derived_well_formed ts expr derived (spelled_words text.toList ts spelled)

-- What is written of a tree spells some of its tokens, whatever follows it that
-- no word runs on into.
def Shows (text : String) (ts : List Token) : Prop :=
  ∀ (cs : List Char) (us : List Token), EndsWord cs → Spells cs us → Spells (text.toList ++ cs) (ts ++ us)

theorem shows_nothing : Shows "" [] := fun _ _ _ rest => rest

theorem shows_append (front back : String) (ts us : List Token) (first : Shows front ts) (second : Shows back us)
    (ends : ∀ cs, EndsWord cs → EndsWord (back.toList ++ cs)) : Shows (front ++ back) (ts ++ us) := by
  intro cs vs stop rest
  rw [String.toList_append, List.append_assoc, List.append_assoc]
  exact first _ _ (ends cs stop) (second cs vs stop rest)

theorem shows_word (name : String) (word : IsWord name) : Shows name [.word name] := by
  intro cs us stop rest
  have spelled := Spells.word name.toList cs us word.1 word.2 stop rest
  rwa [String.ofList_toList] at spelled

theorem mark_ends_word (c : Char) (cs : List Char) (token : Token) (listed : (c, token) ∈ marks) :
    EndsWord (c :: cs) :=
  ends_word_cons c cs (mark_facts (c, token) listed).1

theorem shows_dims (dims : Nat) : Shows (String.join (List.replicate dims "[]")) (brackets dims) := by
  induction dims with
  | zero => exact shows_nothing
  | succ dims ih =>
      intro cs us stop rest
      have spelled := Spells.mark '[' .leftBracket _ _ (by decide)
        (.mark ']' .rightBracket _ _ (by decide) (ih cs us stop rest))
      simpa [List.replicate_succ, brackets] using spelled

theorem dims_end_word (dims : Nat) (cs : List Char) (stop : EndsWord cs) :
    EndsWord ((String.join (List.replicate dims "[]")).toList ++ cs) := by
  cases dims with
  | zero => exact stop
  | succ dims =>
      simpa [List.replicate_succ] using mark_ends_word '[' _ .leftBracket (by decide)

-- Arguments are apart by a comma and a blank.
theorem args_shown (args : List TypeExpr) (present : args ≠ [])
    (each : ∀ arg ∈ args, ∃ ts, Derives ts arg ∧ Shows (display arg) ts) :
    ∃ ts, DerivesAll ts args ∧ Shows (displayArgs args) ts := by
  induction args with
  | nil => exact absurd rfl present
  | cons arg rest ih =>
      obtain ⟨own, derived, shown⟩ := each arg List.mem_cons_self
      cases rest with
      | nil => exact ⟨own, .last own arg derived, shown⟩
      | cons next later =>
          obtain ⟨others, all, behind⟩ := ih (by simp) fun other listed =>
            each other (List.mem_cons_of_mem arg listed)
          refine ⟨own ++ .comma :: others, .more own others arg _ derived all, ?_⟩
          intro cs us stop rest
          have list := Spells.mark ',' .comma _ _ (by decide) (.blank ' ' _ _ (by decide) (behind cs us stop rest))
          have whole := shown _ _ (mark_ends_word ',' _ .comma (by decide)) list
          simpa [displayArgs] using whole

theorem display_shows (expr : TypeExpr) (sound : WellFormed expr) :
    ∃ ts, Derives ts expr ∧ Shows (display expr) ts := by
  induction sound with
  | unit =>
      refine ⟨_, .unit, ?_⟩
      intro cs us _ rest
      exact .mark '(' .leftParen _ _ (by decide) (.mark ')' .rightParen _ _ (by decide) rest)
  | named name args dims word _ ih =>
      by_cases none : args = []
      · subst none
        refine ⟨_, .plain name dims, ?_⟩
        have written : display ⟨name, [], dims⟩ = name ++ String.join (List.replicate dims "[]") := by
          simp [display]
        rw [written]
        exact shows_append name _ [.word name] _ (shows_word name word) (shows_dims dims) (dims_end_word dims)
      · obtain ⟨inside, derived, shown⟩ := args_shown args none ih
        refine ⟨_, .generic name inside args dims derived, ?_⟩
        have written : display ⟨name, args, dims⟩ =
            name ++ ("<" ++ displayArgs args ++ ">" ++ String.join (List.replicate dims "[]")) := by
          cases args with
          | nil => exact absurd rfl none
          | cons arg rest => simp [display, String.append_assoc]
        intro cs us stop rest
        have closed := Spells.mark '>' .rightAngle _ _ (by decide) (shows_dims dims cs us stop rest)
        have listed := shown _ _ (mark_ends_word '>' _ .rightAngle (by decide)) closed
        have opened := Spells.mark '<' .leftAngle _ _ (by decide) listed
        have whole := shows_word name word _ _ (mark_ends_word '<' _ .leftAngle (by decide)) opened
        simpa [written] using whole

theorem parse_display (expr : TypeExpr) (sound : WellFormed expr) : parse (display expr) = .ok expr := by
  obtain ⟨ts, derived, shown⟩ := display_shows expr sound
  have spelled := shown [] [] ends_word_nil .nil
  rw [List.append_nil, List.append_nil] at spelled
  exact (parse_ok_iff (display expr) expr).mpr ⟨ts, spelled, derived⟩

-- A text in the form that its tree is displayed in.
def normalText (text : String) : Outcome String := (parse text).map display

theorem display_undoes_parse :
    (∀ expr, WellFormed expr ↔ ∃ text, parse text = .ok expr) ∧
    (∀ expr, WellFormed expr ↔ parse (display expr) = .ok expr) ∧
    ∀ text, (normalText text >>= parse) = parse text ∧ (normalText text >>= normalText) = normalText text := by
  refine ⟨fun expr => ⟨?_, ?_⟩, fun expr => ⟨parse_display expr, parsed_well_formed _ expr⟩, fun text => ?_⟩
  · exact fun sound => ⟨display expr, parse_display expr sound⟩
  · rintro ⟨text, parsed⟩
    exact parsed_well_formed text expr parsed
  · cases parsed : parse text with
    | error fault => simp [normalText, parsed, Except.map, bind, Except.bind]
    | ok expr =>
        have again := parse_display expr (parsed_well_formed text expr parsed)
        simp [normalText, parsed, again, Except.map, bind, Except.bind]

end ClientPackager.TypeExpr
