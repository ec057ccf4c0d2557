import ClientPackager.Proofs.TypeExpr.Display
import ClientPackager.Proofs.TypeExpr.Lookahead
import ClientPackager.Proofs.TypeExpr.Scanning

set_option autoImplicit false

namespace ClientPackager.TypeExpr

-- Tokens that a text of the language begins with.
def Begins (ts : List Token) : Prop :=
  ∃ (text : String) (later : List Token) (expr : TypeExpr), Spells text.toList (ts ++ later) ∧ Derives (ts ++ later) expr

abbrev tokensOf (lexemes : List Lexeme) : List Token := lexemes.map Lexeme.token

-- Where a text stops being one of the language: in front of the first token
-- that no text of it goes on with, or at its end, if there is only too little.
inductive Misfit (text : String) : Nat → Prop where
  | inside (before after : List Char) (front back : List Lexeme) (lexeme : Lexeme) (cut : text.toList = before ++ after)
      (lexed : Lexes 0 text.toList (front ++ lexeme :: back)) (earlier : Lexes 0 before front)
      (later : Lexes lexeme.offset after (lexeme :: back))
      (starts : ∃ c rest, after = c :: rest ∧ Text.isBlank c = false)
      (counted : lexeme.offset = (String.ofList before).utf8ByteSize) (begins : Begins (tokensOf front))
      (misfit : ¬ Begins (tokensOf front ++ [lexeme.token])) : Misfit text lexeme.offset
  | atEnd (lexemes : List Lexeme) (lexed : Lexes 0 text.toList lexemes) (begins : Begins (tokensOf lexemes))
      (partly : ∀ expr, ¬ Derives (tokensOf lexemes) expr) : Misfit text text.utf8ByteSize

def Token.Proper : Token → Prop
  | .word name => IsWord name
  | .stray _ => False
  | _ => True

theorem token_marked (token : Token) (proper : token.Proper) (wordless : ∀ name, token ≠ .word name) :
    ∃ c, (c, token) ∈ marks := by
  cases token <;> simp_all [marks, Token.Proper]

-- Blanks between words keep them apart.
theorem proper_spelled (ts : List Token) (proper : ∀ token ∈ ts, token.Proper) : ∃ cs, Spells cs ts := by
  induction ts with
  | nil => exact ⟨[], .nil⟩
  | cons token rest ih =>
      obtain ⟨first, others⟩ := List.forall_mem_cons.mp proper
      obtain ⟨cs, spelled⟩ := ih others
      by_cases isWord : ∃ name, token = .word name
      · obtain ⟨name, rfl⟩ := isWord
        have blank := Spells.blank ' ' cs rest (by decide) spelled
        exact ⟨_, shows_word name first _ _ (ends_word_cons ' ' cs (by decide)) blank⟩
      · obtain ⟨c, listed⟩ := token_marked token first (not_exists.mp isWord)
        exact ⟨c :: cs, .mark c token cs rest listed spelled⟩

theorem lexed_words (offset : Nat) (cs : List Char) (lexemes : List Lexeme) (lexed : Lexes offset cs lexemes)
    (name : String) (listed : .word name ∈ tokensOf lexemes) : IsWord name := by
  induction lexed with
  | nil => simp [tokensOf] at listed
  | blank _ _ _ _ _ _ ih => exact ih listed
  | token offset own cs token lexemes written _ _ ih =>
      rcases List.mem_cons.mp listed with here | later
      · cases written with
        | mark c token known =>
            obtain rfl : .word name = token := here
            simp [marks] at known
        | stray => simp at here
        | word word present letters =>
            obtain rfl := Token.word.inj here
            simpa [IsWord] using And.intro present letters
      · exact ih later

section Opening

-- Tokens that more of them, and proper ones, make an expression.
def Opens (front : List Token) : Prop :=
  ∃ later expr, (∀ token ∈ later, token.Proper) ∧ Derives (front ++ later) expr

def OpensArgs (front : List Token) : Prop :=
  ∃ later args, (∀ token ∈ later, token.Proper) ∧ DerivesAll (front ++ later) args

theorem begins_of_opens (offset : Nat) (cs : List Char) (front : List Lexeme) (lexed : Lexes offset cs front)
    (opens : Opens (tokensOf front)) : Begins (tokensOf front) := by
  obtain ⟨later, expr, proper, derived⟩ := opens
  have known := derived_known _ expr derived
  have own : ∀ token ∈ tokensOf front, token.Proper := by
    intro token listed
    have solid := known token (List.mem_append_left _ listed)
    cases token with
    | word name => exact lexed_words offset cs front lexed name listed
    | stray => simp [Token.isStray] at solid
    | _ => trivial
  obtain ⟨text, spelled⟩ := proper_spelled (tokensOf front ++ later) (List.forall_mem_append.mpr ⟨own, proper⟩)
  exact ⟨String.ofList text, later, expr, by rwa [String.toList_ofList], derived⟩

theorem some_word : IsWord "a" := by
  refine ⟨by decide, fun c listed => ?_⟩
  obtain rfl : c = 'a' := by simpa using listed
  decide

theorem opens_nothing : Opens [] := by
  refine ⟨[.word "a"], _, ?_, .plain "a" 0⟩
  simpa [Token.Proper] using some_word

theorem opens_args (front : List Token) (opens : Opens front) : OpensArgs front := by
  obtain ⟨later, arg, proper, derived⟩ := opens
  exact ⟨later, [arg], proper, .last _ arg derived⟩

theorem brackets_more (dims : Nat) : brackets (dims + 1) = brackets dims ++ [.leftBracket, .rightBracket] := by
  induction dims with
  | zero => rfl
  | succ dims ih => exact congrArg (fun ts => Token.leftBracket :: .rightBracket :: ts) ih

theorem dims_stuck (ts : List Token) (mismatch : Mismatch) (stuck : readDims ts = .error mismatch) :
    ∃ dims, ts = brackets dims ++ .leftBracket :: mismatch.rest := by
  induction ts using readDims.induct with
  | case1 rest ih =>
      rw [readDims] at stuck
      cases outcome : readDims rest with
      | error inner =>
          rw [outcome] at stuck
          cases stuck
          obtain ⟨dims, shape⟩ := ih outcome
          exact ⟨dims + 1, by rw [shape]; rfl⟩
      | ok found =>
          rw [outcome] at stuck
          cases stuck
  | case2 rest other =>
      rw [readDims] at stuck
      · cases stuck
        exact ⟨0, rfl⟩
      · exact other
  | case3 ts single double =>
      rw [readDims] at stuck
      · cases stuck
      · exact single
      · exact double

theorem dims_of_stuck (name : String) (args : List TypeExpr) (ts : List Token) (mismatch : Mismatch)
    (stuck : Course.dimsOf name args ts = .error mismatch) :
    ∃ dims, ts = brackets dims ++ .leftBracket :: mismatch.rest := by
  apply dims_stuck
  rw [Course.dimsOf] at stuck
  cases outcome : readDims ts with
  | error inner =>
      rw [outcome] at stuck
      cases stuck
      rfl
  | ok found =>
      rw [outcome] at stuck
      cases stuck

-- A closing bracket is what is missing.
theorem plain_opens (name : String) (dims : Nat) : Opens (.word name :: (brackets dims ++ [.leftBracket])) := by
  refine ⟨[.rightBracket], ⟨name, [], dims + 1⟩, by simp [Token.Proper], ?_⟩
  have shape : .word name :: (brackets dims ++ [.leftBracket]) ++ [.rightBracket] =
      .word name :: brackets (dims + 1) := by simp [brackets_more]
  exact shape ▸ .plain name (dims + 1)

theorem generic_opens (name : String) (own : List Token) (args : List TypeExpr) (dims : Nat)
    (derived : DerivesAll own args) :
    Opens (.word name :: .leftAngle :: (own ++ .rightAngle :: (brackets dims ++ [.leftBracket]))) := by
  refine ⟨[.rightBracket], ⟨name, args, dims + 1⟩, by simp [Token.Proper], ?_⟩
  have shape : .word name :: .leftAngle :: (own ++ .rightAngle :: (brackets dims ++ [.leftBracket])) ++ [.rightBracket] =
      .word name :: .leftAngle :: (own ++ .rightAngle :: brackets (dims + 1)) := by simp [brackets_more]
  exact shape ▸ .generic name own args (dims + 1) derived

theorem generic_args_open (name : String) (front : List Token) (opens : OpensArgs front) :
    Opens (.word name :: .leftAngle :: front) := by
  obtain ⟨later, args, proper, derived⟩ := opens
  refine ⟨later ++ [.rightAngle], ⟨name, args, 0⟩, ?_, ?_⟩
  · simpa [or_imp, forall_and, Token.Proper] using proper
  · have whole := Derives.generic name (front ++ later) args 0 derived
    simpa [brackets] using whole

theorem bounded_opens (bound : String) (known : isBoundWord bound = true) (front : List Token) (opens : Opens front) :
    Opens (.question :: .word bound :: front) := by
  obtain ⟨later, expr, proper, derived⟩ := opens
  exact ⟨later, expr, proper, .bounded bound _ expr (by simpa [isBoundWord] using known) derived⟩

theorem more_args_open (own front : List Token) (arg : TypeExpr) (derived : Derives own arg) (opens : OpensArgs front) :
    OpensArgs (own ++ .comma :: front) := by
  obtain ⟨later, args, proper, rest⟩ := opens
  refine ⟨later, arg :: args, proper, ?_⟩
  simpa using DerivesAll.more own (front ++ later) arg args derived rest

theorem arg_opens (own : List Token) (arg : TypeExpr) (derived : Derives own arg) : OpensArgs own :=
  ⟨[], [arg], by simp, by simpa using DerivesAll.last own arg derived⟩

-- Where a reader is stuck, what it has taken is the beginning of what it reads.
def StuckBehind {α : Type} (opens : List Token → Prop) (read : List Token → Except Mismatch α) : Prop :=
  ∀ ts mismatch, read ts = .error mismatch → ∃ front, ts = front ++ mismatch.rest ∧ opens front

section Step

variable (fuel : Nat) (inner : StuckBehind Opens (readExpr fuel)) (args : StuckBehind OpensArgs (readArgs fuel))

include inner args

theorem expr_stuck : StuckBehind Opens (readExpr (fuel + 1)) := by
  intro ts mismatch stuck
  obtain ⟨course, rest, rfl, same⟩ := read_expr_course ts
  rw [same fuel rest rfl] at stuck
  cases course with
  | unit | wildcard => cases stuck
  | unclosed =>
      cases stuck
      exact ⟨[.leftParen], rfl, [.rightParen], _, by simp [Token.Proper], .unit⟩
  | nameless =>
      cases stuck
      exact ⟨[], rfl, opens_nothing⟩
  | bounded bound known =>
      obtain ⟨front, rfl, opens⟩ := inner rest mismatch stuck
      exact ⟨_, rfl, bounded_opens bound known front opens⟩
  | plain name =>
      obtain ⟨dims, shape⟩ := dims_of_stuck name [] rest mismatch stuck
      exact ⟨_, by simp [Course.front, shape], plain_opens name dims⟩
  | generic name =>
      simp only [Course.reader] at stuck
      cases arguments : readArgs fuel rest with
      | error other =>
          rw [arguments] at stuck
          cases stuck
          obtain ⟨front, rfl, opens⟩ := args rest mismatch arguments
          exact ⟨_, rfl, generic_args_open name front opens⟩
      | ok found =>
          rw [arguments] at stuck
          obtain ⟨dims, shape⟩ := dims_of_stuck name found.1 found.2 mismatch stuck
          obtain ⟨own, whole, derived⟩ := read_args_sound fuel rest found.1 found.2 arguments
          exact ⟨_, by simp [Course.front, whole, shape], generic_opens name own found.1 dims derived⟩

theorem args_stuck : StuckBehind OpensArgs (readArgs (fuel + 1)) := by
  intro ts mismatch stuck
  rw [read_args_step] at stuck
  cases first : readExpr fuel ts with
  | error other =>
      rw [first] at stuck
      cases stuck
      obtain ⟨front, whole, opens⟩ := inner ts mismatch first
      exact ⟨front, whole, opens_args front opens⟩
  | ok found =>
      obtain ⟨own, whole, derived⟩ := read_expr_sound fuel ts found.1 found.2 first
      rw [first] at stuck
      simp only [bind, Except.bind, afterArg] at stuck
      split at stuck
      · next rest shape =>
          cases others : readArgs fuel rest with
          | error other =>
              rw [others] at stuck
              cases stuck
              obtain ⟨front, later, opens⟩ := args rest mismatch others
              exact ⟨_, by simp [whole, shape, later], more_args_open own front found.1 derived opens⟩
          | ok found =>
              rw [others] at stuck
              cases stuck
      · cases stuck
      · cases stuck
        exact ⟨own, whole, arg_opens own found.1 derived⟩

end Step

theorem readers_stuck (fuel : Nat) :
    StuckBehind Opens (readExpr fuel) ∧ StuckBehind OpensArgs (readArgs fuel) := by
  induction fuel with
  | zero =>
      constructor <;> rintro ts mismatch ⟨⟩
      · exact ⟨[], rfl, opens_nothing⟩
      · exact ⟨[], rfl, opens_args [] opens_nothing⟩
  | succ fuel ih => exact ⟨expr_stuck fuel ih.1 ih.2, args_stuck fuel ih.1 ih.2⟩

end Opening

theorem refused_rest (ts : List Token) (mismatch : Mismatch) (refused : ofTokens ts = .error mismatch) :
    restOf (readExpr (2 * ts.length + 2) ts) = mismatch.rest ∧ ∃ front, ts = front ++ mismatch.rest ∧ Opens front := by
  rw [ofTokens] at refused
  cases outcome : readExpr (2 * ts.length + 2) ts with
  | error inner =>
      rw [outcome] at refused
      cases refused
      exact ⟨rfl, (readers_stuck _).1 ts mismatch outcome⟩
  | ok found =>
      obtain ⟨own, whole, derived⟩ := read_expr_sound _ ts found.1 found.2 outcome
      simp only [outcome, bind, Except.bind] at refused
      split at refused
      · cases refused
      · cases refused
        exact ⟨rfl, own, whole, [], found.1, by simp, by rwa [List.append_nil]⟩

-- Whatever follows, the reader leaves the token that it is stuck at, and an
-- expression leaves none.
theorem refused_token (front rest : List Token) (token : Token) (later : List Token) (expr : TypeExpr)
    (left : restOf (readExpr (2 * (front ++ token :: rest).length + 2) (front ++ token :: rest)) = token :: rest) :
    ¬ Derives (front ++ token :: later) expr := by
  intro derived
  let fuel := 2 * (front ++ token :: rest).length + 2 * (front ++ token :: later).length + 2
  rw [(readers_settled _ fuel _).1 (by omega) (by omega)] at left
  obtain ⟨own, whole, moved⟩ := (readers_local fuel).1 (front ++ token :: rest)
  rw [left] at whole moved
  obtain rfl := List.append_cancel_right whole
  have here := moved (token :: later) rfl
  have complete := read_expr_complete fuel _ expr derived (by omega) [] (.inl rfl)
  rw [List.append_nil, here] at complete
  have ends := congrArg restOf complete
  rw [rest_in_front_of] at ends
  simp [restOf] at ends

theorem misfit_at_rest (text : String) (mismatch : Mismatch)
    (refused : ofTokens (tokensOf (Lexeme.ofText text)) = .error mismatch) :
    Misfit text (offsetOfLast mismatch.rest.length (Lexeme.ofText text) (byteSize text.toList)) := by
  obtain ⟨left, front, whole, opens⟩ := refused_rest _ mismatch refused
  obtain ⟨earlier, behind, lexemes, rfl, same⟩ := List.map_eq_append_iff.mp whole
  have lexed := text_lexed text
  rw [lexemes] at lexed
  have dropped : (earlier ++ behind).drop ((earlier ++ behind).length - mismatch.rest.length) = behind := by
    rw [← same, List.length_map, List.length_append, Nat.add_sub_cancel, List.drop_left]
  rw [offsetOfLast, lexemes, dropped]
  cases behind with
  | nil =>
      rw [List.append_nil] at lexed
      have partly : ∀ expr, ¬ Derives (tokensOf earlier) expr := by
        intro expr derived
        rw [lexemes, List.append_nil] at refused
        rw [(of_tokens_iff _ expr).mpr derived] at refused
        cases refused
      rw [byte_size_utf8, String.ofList_toList]
      exact .atEnd earlier lexed (begins_of_opens 0 _ earlier lexed opens) partly
  | cons lexeme later =>
      obtain ⟨before, after, cut, counted, first, second, starts⟩ := lexed_cut 0 _ earlier later lexeme lexed
      have misfit : ¬ Begins (tokensOf earlier ++ [lexeme.token]) := by
        rintro ⟨_, more, expr, _, derived⟩
        rw [whole, ← same] at left
        exact refused_token _ _ lexeme.token more expr left (by simpa using derived)
      rw [Nat.zero_add, byte_size_utf8] at counted
      exact .inside before after earlier later lexeme cut lexed first second starts counted
        (begins_of_opens 0 before earlier first opens) misfit

theorem refused_at_first_misfit (text : String) :
    (∃ expr, parse text = .ok expr) ∨
    ∃ (defect : Defect) (offset : Nat),
      parse text = .error (.invalidTypeExpression text s!"{defect.reason} at offset {offset}") ∧ Misfit text offset := by
  cases outcome : ofTokens (tokensOf (Lexeme.ofText text)) with
  | ok expr =>
      refine .inl ⟨expr, ?_⟩
      simp only [parse, read, outcome]
      rfl
  | error mismatch =>
      refine .inr ⟨mismatch.defect, _, ?_, misfit_at_rest text mismatch outcome⟩
      simp only [parse, read, outcome]
      rfl

-- The comma stands behind three bytes and the end behind four, since the letter takes two.
theorem argument_missing_or_unclosed :
    (parse "é<,>" = .error (.invalidTypeExpression "é<,>" "expected type name at offset 3") ∧ Misfit "é<,>" 3) ∧
    (parse "é<a" = .error (.invalidTypeExpression "é<a" "expected ',' or '>' at offset 4") ∧ Misfit "é<a" 4) := by
  refine ⟨⟨rfl, ?_⟩, ⟨rfl, ?_⟩⟩
  · exact misfit_at_rest "é<,>" ⟨.noName, [.comma, .rightAngle]⟩ rfl
  · exact misfit_at_rest "é<a" ⟨.unclosedArgs, []⟩ rfl

end ClientPackager.TypeExpr
