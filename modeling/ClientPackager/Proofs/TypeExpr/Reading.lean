import ClientPackager.Proofs.Outcome
import ClientPackager.Proofs.TypeExpr.Spelling
import ClientPackager.TypeExpr.Reader

set_option autoImplicit false

namespace ClientPackager.TypeExpr

-- What may stand behind an expression inside a text.
def Stops (ts : List Token) : Prop := ts = [] ∨ (∃ rest, ts = .comma :: rest) ∨ ∃ rest, ts = .rightAngle :: rest

theorem read_dims_brackets (dims : Nat) (rest : List Token) (stops : Stops rest) :
    readDims (brackets dims ++ rest) = .ok (dims, rest) := by
  induction dims with
  | zero => rcases stops with rfl | ⟨later, rfl⟩ | ⟨later, rfl⟩ <;> rfl
  | succ dims ih =>
      simp only [brackets, List.cons_append, readDims, ih]
      rfl

theorem read_dims_sound (ts : List Token) (dims : Nat) (rest : List Token) (read : readDims ts = .ok (dims, rest)) :
    ts = brackets dims ++ rest := by
  induction ts using readDims.induct generalizing dims rest with
  | case1 later ih =>
      rw [readDims, bind_eq_ok] at read
      obtain ⟨⟨fewer, after⟩, inner, same⟩ := read
      cases same
      rw [ih fewer rest inner]
      rfl
  | case2 later other =>
      rw [readDims] at read
      · cases read
      · exact other
  | case3 ts single double =>
      rw [readDims] at read
      · cases read
        rfl
      · exact single
      · exact double

mutual
theorem read_expr_sound (fuel : Nat) (ts : List Token) (expr : TypeExpr) (rest : List Token)
    (read : readExpr fuel ts = .ok (expr, rest)) : ∃ own, ts = own ++ rest ∧ Derives own expr := by
  cases fuel with
  | zero => cases read
  | succ fuel =>
      unfold readExpr at read
      split at read
      · cases read
        exact ⟨[.leftParen, .rightParen], rfl, .unit⟩
      · cases read
      · rename_i bound later
        split at read
        · rename_i known
          obtain ⟨own, same, inner⟩ := read_expr_sound fuel later expr rest read
          refine ⟨.question :: .word bound :: own, by rw [same]; rfl, .bounded bound own expr ?_ inner⟩
          simpa [isBoundWord] using known
        · cases read
          exact ⟨[.question], rfl, .wildcard⟩
      · cases read
        exact ⟨[.question], rfl, .wildcard⟩
      · rename_i name later
        rw [bind_eq_ok] at read
        obtain ⟨⟨args, behind⟩, arguments, read⟩ := read
        rw [bind_eq_ok] at read
        obtain ⟨⟨dims, after⟩, dimensions, same⟩ := read
        cases same
        obtain ⟨own, front, inner⟩ := read_args_sound fuel later args behind arguments
        refine ⟨.word name :: .leftAngle :: (own ++ .rightAngle :: brackets dims), ?_, .generic name own args dims inner⟩
        rw [front, read_dims_sound behind dims rest dimensions]
        simp
      · rename_i name later _
        rw [bind_eq_ok] at read
        obtain ⟨⟨dims, after⟩, dimensions, same⟩ := read
        cases same
        refine ⟨.word name :: brackets dims, ?_, .plain name dims⟩
        rw [read_dims_sound later dims rest dimensions]
        rfl
      · cases read
theorem read_args_sound (fuel : Nat) (ts : List Token) (args : List TypeExpr) (rest : List Token)
    (read : readArgs fuel ts = .ok (args, rest)) : ∃ own, ts = own ++ .rightAngle :: rest ∧ DerivesAll own args := by
  cases fuel with
  | zero => cases read
  | succ fuel =>
      rw [readArgs, bind_eq_ok] at read
      obtain ⟨⟨arg, behind⟩, first, read⟩ := read
      obtain ⟨own, front, derived⟩ := read_expr_sound fuel ts arg behind first
      dsimp only at read
      split at read
      · rename_i later
        rw [bind_eq_ok] at read
        obtain ⟨⟨others, after⟩, second, same⟩ := read
        cases same
        obtain ⟨ownLater, behindComma, derivedLater⟩ := read_args_sound fuel later others after second
        refine ⟨own ++ .comma :: ownLater, ?_, .more own ownLater arg others derived derivedLater⟩
        rw [front, behindComma]
        simp
      · cases read
        exact ⟨own, front, .last own arg derived⟩
      · cases read
end

-- Two calls for each token are enough, and no call looks past the tokens of its
-- own expression and the next one.
mutual
theorem read_expr_complete (fuel : Nat) (ts : List Token) (expr : TypeExpr) (derived : Derives ts expr)
    (enough : 2 * ts.length ≤ fuel) (rest : List Token) (stops : Stops rest) :
    readExpr fuel (ts ++ rest) = .ok (expr, rest) := by
  cases derived with
  | unit =>
      obtain ⟨fuel, rfl⟩ := Nat.exists_eq_add_of_le' enough
      rfl
  | wildcard =>
      obtain ⟨fuel, rfl⟩ := Nat.exists_eq_add_of_le' enough
      rcases stops with rfl | ⟨later, rfl⟩ | ⟨later, rfl⟩ <;> rfl
  | bounded bound inside _ known inner =>
      simp only [List.length_cons] at enough
      obtain ⟨fuel, rfl⟩ : ∃ less, fuel = less + 1 := Nat.exists_eq_add_of_le' (by omega)
      have deeper := read_expr_complete fuel inside expr inner (by omega) rest stops
      have isBound : isBoundWord bound = true := by simpa [isBoundWord] using known
      simpa only [List.cons_append, readExpr, if_pos isBound] using deeper
  | plain name dims =>
      simp only [List.length_cons] at enough
      obtain ⟨fuel, rfl⟩ : ∃ less, fuel = less + 1 := Nat.exists_eq_add_of_le' (by omega)
      have dimensions := read_dims_brackets dims rest stops
      cases dims with
      | zero => rcases stops with rfl | ⟨later, rfl⟩ | ⟨later, rfl⟩ <;> rfl
      | succ dims =>
          simp only [brackets, List.cons_append] at dimensions ⊢
          simp only [readExpr, dimensions, bind, Except.bind]
          rfl
  | generic name inside args dims inner =>
      simp only [List.length_cons, List.length_append] at enough
      obtain ⟨fuel, rfl⟩ : ∃ less, fuel = less + 1 := Nat.exists_eq_add_of_le' (by omega)
      have arguments := read_args_complete fuel inside args inner (by omega) (brackets dims ++ rest)
      have shape : Token.word name :: .leftAngle :: (inside ++ .rightAngle :: brackets dims) ++ rest =
          .word name :: .leftAngle :: (inside ++ .rightAngle :: (brackets dims ++ rest)) := by simp
      simp only [shape, readExpr, arguments, read_dims_brackets dims rest stops, bind, Except.bind]
      rfl
termination_by fuel
theorem read_args_complete (fuel : Nat) (ts : List Token) (args : List TypeExpr) (derived : DerivesAll ts args)
    (enough : 2 * ts.length + 1 ≤ fuel) (rest : List Token) :
    readArgs fuel (ts ++ .rightAngle :: rest) = .ok (args, rest) := by
  obtain ⟨fuel, rfl⟩ : ∃ less, fuel = less + 1 := Nat.exists_eq_add_of_le' (by omega)
  cases derived with
  | last _ arg only =>
      have first := read_expr_complete fuel ts arg only (by omega) (.rightAngle :: rest) (.inr (.inr ⟨rest, rfl⟩))
      rw [readArgs, first]
      rfl
  | more own later arg others first behind =>
      simp only [List.length_append, List.length_cons] at enough
      have head := read_expr_complete fuel own arg first (by omega) (.comma :: (later ++ .rightAngle :: rest))
        (.inr (.inl ⟨_, rfl⟩))
      have tail := read_args_complete fuel later others behind (by omega) rest
      rw [List.append_assoc, List.cons_append, readArgs, head]
      simp only [bind, Except.bind, tail]
      rfl
termination_by fuel
end

theorem brackets_known (dims : Nat) : ∀ token ∈ brackets dims, token.isStray = false := by
  induction dims with
  | zero => simp [brackets]
  | succ dims ih => simpa [brackets, Token.isStray] using ih

mutual
theorem derived_known : ∀ (ts : List Token) (expr : TypeExpr), Derives ts expr →
    ∀ token ∈ ts, token.isStray = false
  | _, _, .unit | _, _, .wildcard => by simp [Token.isStray]
  | _, _, .bounded bound inside expr _ inner => by
      simpa [Token.isStray] using derived_known inside expr inner
  | _, _, .plain name dims => by simpa [Token.isStray] using brackets_known dims
  | _, _, .generic name inside args dims inner => by
      have arguments := all_derived_known inside args inner
      have dimensions := brackets_known dims
      simp only [List.mem_cons, List.mem_append]
      rintro token (rfl | rfl | argument | rfl | dimension)
      · rfl
      · rfl
      · exact arguments token argument
      · rfl
      · exact dimensions token dimension
theorem all_derived_known : ∀ (ts : List Token) (args : List TypeExpr), DerivesAll ts args →
    ∀ token ∈ ts, token.isStray = false
  | ts, _, .last _ arg only => derived_known ts arg only
  | _, _, .more own later arg others first rest => by
      have front := derived_known own arg first
      have back := all_derived_known later others rest
      simp only [List.mem_cons, List.mem_append]
      rintro token (inFront | rfl | behind)
      · exact front token inFront
      · rfl
      · exact back token behind
end

theorem of_tokens_iff (ts : List Token) (expr : TypeExpr) : ofTokens ts = .ok expr ↔ Derives ts expr := by
  constructor
  · intro read
    rw [ofTokens, bind_eq_ok] at read
    obtain ⟨⟨found, rest⟩, first, done⟩ := read
    by_cases all : rest = []
    · simp only [if_pos all] at done
      cases done
      obtain ⟨own, whole, derived⟩ := read_expr_sound _ ts expr rest first
      rw [whole, all, List.append_nil]
      exact derived
    · simp only [if_neg all] at done
      cases done
  · intro derived
    have read := read_expr_complete (2 * ts.length + 2) ts expr derived (by omega) [] (.inl rfl)
    rw [List.append_nil] at read
    rw [ofTokens, read]
    rfl

theorem read_ok_iff (text : String) (expr : TypeExpr) : read text = .ok expr ↔ Denotes text expr := by
  have tokens : read text = .ok expr ↔ ofTokens ((Lexeme.ofText text).map Lexeme.token) = .ok expr := by
    simp only [read]
    cases ofTokens ((Lexeme.ofText text).map Lexeme.token) <;> simp
  rw [tokens, of_tokens_iff]
  constructor
  · intro derived
    exact ⟨_, (spells_iff text _).mpr ⟨rfl, derived_known _ expr derived⟩, derived⟩
  · rintro ⟨ts, spelled, derived⟩
    rw [((spells_iff text ts).mp spelled).1]
    exact derived

theorem parse_ok_iff (text : String) (expr : TypeExpr) : parse text = .ok expr ↔ Denotes text expr := by
  rw [← read_ok_iff, parse]
  cases read text <;> simp [Except.mapError]

theorem parse_fault (text : String) (fault : Fault) (refused : parse text = .error fault) :
    ∃ reason, fault = .invalidTypeExpression text reason := by
  rw [parse] at refused
  cases outcome : read text with
  | ok expr => simp [outcome, Except.mapError] at refused
  | error found =>
      simp only [outcome, Except.mapError, Except.error.injEq] at refused
      exact ⟨found.reason, refused.symm⟩

theorem parse_accepts_grammar (text : String) :
    (∀ expr, parse text = .ok expr ↔ Denotes text expr) ∧
    ((∀ expr, ¬ Denotes text expr) ↔ ∃ reason, parse text = .error (.invalidTypeExpression text reason)) := by
  refine ⟨parse_ok_iff text, ?_, ?_⟩
  · intro nothing
    cases outcome : parse text with
    | ok expr => exact absurd ((parse_ok_iff text expr).mp outcome) (nothing expr)
    | error fault =>
        obtain ⟨reason, rfl⟩ := parse_fault text fault outcome
        exact ⟨reason, rfl⟩
  · rintro ⟨reason, refused⟩ expr denoted
    rw [(parse_ok_iff text expr).mpr denoted] at refused
    cases refused

end ClientPackager.TypeExpr
