import ClientPackager.Proofs.TypeExpr.Reading

set_option autoImplicit false

namespace ClientPackager.TypeExpr

section Outcomes

variable {α : Type}

def restOf : Except Mismatch (α × List Token) → List Token
  | .ok (_, rest) => rest
  | .error mismatch => mismatch.rest

-- The same outcome in front of other tokens.
def inFrontOf (later : List Token) : Except Mismatch (α × List Token) → Except Mismatch (α × List Token)
  | .ok (value, _) => .ok (value, later)
  | .error mismatch => .error ⟨mismatch.defect, later⟩

theorem rest_in_front_of (later : List Token) (outcome : Except Mismatch (α × List Token)) :
    restOf (inFrontOf later outcome) = later := by
  rcases outcome with mismatch | ⟨value, rest⟩ <;> rfl

-- What a reader makes of tokens depends on those that it takes and on the first
-- that it leaves.
def Local (read : List Token → Except Mismatch (α × List Token)) (ts : List Token) : Prop :=
  ∃ own, ts = own ++ restOf (read ts) ∧
    ∀ later, later.head? = (restOf (read ts)).head? → read (own ++ later) = inFrontOf later (read ts)

end Outcomes

section Readers

variable {α β : Type}

theorem head_append (own first second : List Token) (same : first.head? = second.head?) :
    (own ++ first).head? = (own ++ second).head? := by
  cases own with
  | nil => exact same
  | cons token rest => rfl

theorem local_done (value : α) (ts : List Token) : Local (fun ts => .ok (value, ts)) ts :=
  ⟨[], rfl, fun _ _ => rfl⟩

theorem local_refused (defect : Defect) (ts : List Token) :
    Local (fun ts => (.error ⟨defect, ts⟩ : Except Mismatch (α × List Token))) ts :=
  ⟨[], rfl, fun _ _ => rfl⟩

-- Tokens in front that settle which reader goes on, maybe with the next one.
theorem local_behind (read next : List Token → Except Mismatch (α × List Token)) (front rest : List Token)
    (same : ∀ later, later.head? = rest.head? → read (front ++ later) = next later) (goes : Local next rest) :
    Local read (front ++ rest) := by
  obtain ⟨own, whole, moved⟩ := goes
  have here := same rest rfl
  refine ⟨front ++ own, by rw [here, List.append_assoc, ← whole], ?_⟩
  intro later alike
  rw [here] at alike ⊢
  have first : (own ++ later).head? = rest.head? := by
    rw [head_append own later _ alike, ← whole]
  rw [List.append_assoc, same (own ++ later) first, moved later alike]

theorem local_bind (first : List Token → Except Mismatch (α × List Token))
    (next : α → List Token → Except Mismatch (β × List Token)) (ts : List Token)
    (begins : Local first ts) (goes : ∀ value rest, Local (next value) rest) :
    Local (fun ts => first ts >>= fun found => next found.1 found.2) ts := by
  obtain ⟨own, whole, moved⟩ := begins
  cases outcome : first ts with
  | error mismatch =>
      rw [outcome] at whole moved
      refine ⟨own, ?_, fun later alike => ?_⟩
      · simp only [outcome, bind, Except.bind]
        exact whole
      · simp only [outcome, bind, Except.bind] at alike ⊢
        rw [moved later alike]
        rfl
  | ok found =>
      rw [outcome] at whole moved
      obtain ⟨more, behind, further⟩ := goes found.1 found.2
      have both : (first ts >>= fun found => next found.1 found.2) = next found.1 found.2 := by rw [outcome]; rfl
      refine ⟨own ++ more, ?_, fun later alike => ?_⟩
      · simp only [both]
        rw [List.append_assoc, ← behind]
        exact whole
      · simp only [both] at alike ⊢
        have onward : (more ++ later).head? = found.2.head? := by
          rw [head_append more later _ alike, ← behind]
        rw [List.append_assoc, moved (more ++ later) onward]
        exact further later alike

theorem local_return (first : List Token → Except Mismatch (α × List Token)) (make : α → β) (ts : List Token)
    (begins : Local first ts) :
    Local (fun ts => first ts >>= fun found => .ok (make found.1, found.2)) ts :=
  local_bind first (fun value rest => .ok (make value, rest)) ts begins fun value rest => local_done (make value) rest

end Readers

theorem read_dims_else (rest : List Token) (other : rest.head? ≠ some .leftBracket) :
    readDims rest = .ok (0, rest) := by
  unfold readDims
  split <;> simp_all

theorem read_dims_unclosed (rest : List Token) (other : rest.head? ≠ some .rightBracket) :
    readDims (.leftBracket :: rest) = .error ⟨.unclosedBracket, rest⟩ := by
  unfold readDims
  split <;> simp_all

theorem read_dims_local (ts : List Token) : Local readDims ts := by
  induction ts using readDims.induct with
  | case1 rest ih =>
      exact local_behind readDims _ [.leftBracket, .rightBracket] rest (fun _ _ => rfl)
        (local_return readDims (· + 1) rest ih)
  | case2 rest other =>
      have apart : rest.head? ≠ some .rightBracket := by
        intro same
        obtain ⟨later, rfl⟩ := List.head?_eq_some_iff.mp same
        exact other later rfl
      exact local_behind readDims _ [.leftBracket] rest
        (fun later alike => read_dims_unclosed later (alike ▸ apart)) (local_refused _ rest)
  | case3 ts single double =>
      have apart : ts.head? ≠ some .leftBracket := by
        intro same
        obtain ⟨later, rfl⟩ := List.head?_eq_some_iff.mp same
        exact double later rfl
      exact local_behind readDims _ [] ts (fun later alike => read_dims_else later (alike ▸ apart)) (local_done 0 ts)

-- The ways to begin an expression: the tokens that settle the way, and what
-- reads on behind them.
inductive Course where
  | unit
  | unclosed
  | bounded (bound : String) (known : isBoundWord bound = true)
  | wildcard
  | generic (name : String)
  | plain (name : String)
  | nameless

namespace Course

def front : Course → List Token
  | unit => [.leftParen, .rightParen]
  | unclosed => [.leftParen]
  | bounded bound _ => [.question, .word bound]
  | wildcard => [.question]
  | generic name => [.word name, .leftAngle]
  | plain name => [.word name]
  | nameless => []

def dimsOf (name : String) (args : List TypeExpr) (ts : List Token) : Except Mismatch (TypeExpr × List Token) :=
  readDims ts >>= fun found => .ok (⟨name, args, found.1⟩, found.2)

def reader (fuel : Nat) : Course → List Token → Except Mismatch (TypeExpr × List Token)
  | unit, ts => .ok (TypeExpr.unit, ts)
  | unclosed, ts => .error ⟨.unclosedParen, ts⟩
  | bounded _ _, ts => readExpr fuel ts
  | wildcard, ts => .ok (anything, ts)
  | generic name, ts => readArgs fuel ts >>= fun found => dimsOf name found.1 found.2
  | plain name, ts => dimsOf name [] ts
  | nameless, ts => .error ⟨.noName, ts⟩

end Course

theorem read_paren (fuel : Nat) (rest : List Token) (other : rest.head? ≠ some .rightParen) :
    readExpr (fuel + 1) (.leftParen :: rest) = .error ⟨.unclosedParen, rest⟩ := by
  unfold readExpr
  split <;> simp_all

theorem read_wildcard (fuel : Nat) (rest : List Token)
    (other : ∀ bound, rest.head? = some (.word bound) → isBoundWord bound = false) :
    readExpr (fuel + 1) (.question :: rest) = .ok (anything, rest) := by
  unfold readExpr
  split <;> simp_all

theorem read_plain (fuel : Nat) (name : String) (rest : List Token) (other : rest.head? ≠ some .leftAngle) :
    readExpr (fuel + 1) (.word name :: rest) = Course.dimsOf name [] rest := by
  unfold readExpr
  split <;> simp_all
  rfl

-- What may begin an expression.
def Token.begins : Token → Bool
  | .leftParen | .question | .word _ => true
  | _ => false

theorem read_nameless (fuel : Nat) (ts : List Token)
    (other : ∀ token, ts.head? = some token → token.begins = false) :
    readExpr (fuel + 1) ts = .error ⟨.noName, ts⟩ := by
  unfold readExpr
  split <;> simp_all [Token.begins]

-- The only look at what an expression begins with; all else about readers goes
-- by these seven ways.
theorem read_expr_course (ts : List Token) : ∃ (course : Course) (rest : List Token), ts = course.front ++ rest ∧
    ∀ (fuel : Nat) (later : List Token), later.head? = rest.head? →
      readExpr (fuel + 1) (course.front ++ later) = course.reader fuel later := by
  by_cases opens : ∃ token, ts.head? = some token ∧ token.begins = true
  · obtain ⟨token, first, begins⟩ := opens
    obtain ⟨rest, rfl⟩ := List.head?_eq_some_iff.mp first
    cases token with
    | leftParen =>
        by_cases closed : rest.head? = some .rightParen
        · obtain ⟨later, rfl⟩ := List.head?_eq_some_iff.mp closed
          exact ⟨.unit, later, rfl, fun _ _ _ => rfl⟩
        · exact ⟨.unclosed, rest, rfl, fun fuel later alike => read_paren fuel later (alike ▸ closed)⟩
    | question =>
        by_cases bounds : ∃ bound, rest.head? = some (.word bound) ∧ isBoundWord bound = true
        · obtain ⟨bound, next, known⟩ := bounds
          obtain ⟨later, rfl⟩ := List.head?_eq_some_iff.mp next
          refine ⟨.bounded bound known, later, rfl, fun fuel other _ => ?_⟩
          simp [Course.front, readExpr, known, Course.reader]
        · refine ⟨.wildcard, rest, rfl, fun fuel later alike => read_wildcard fuel later fun bound next => ?_⟩
          simpa using fun known => bounds ⟨bound, alike ▸ next, known⟩
    | word name =>
        by_cases angle : rest.head? = some .leftAngle
        · obtain ⟨later, rfl⟩ := List.head?_eq_some_iff.mp angle
          exact ⟨.generic name, later, rfl, fun _ _ _ => rfl⟩
        · exact ⟨.plain name, rest, rfl, fun fuel later alike => read_plain fuel name later (alike ▸ angle)⟩
    | rightParen | leftAngle | rightAngle | leftBracket | rightBracket | comma | stray => simp [Token.begins] at begins
  · refine ⟨.nameless, ts, rfl, fun fuel later alike => read_nameless fuel later fun token first => ?_⟩
    simpa using fun begins => opens ⟨token, alike ▸ first, begins⟩

-- What reads on behind an argument.
def afterArg (fuel : Nat) (arg : TypeExpr) (ts : List Token) : Except Mismatch (List TypeExpr × List Token) :=
  match ts with
  | .comma :: rest => readArgs fuel rest >>= fun found => .ok (arg :: found.1, found.2)
  | .rightAngle :: rest => .ok ([arg], rest)
  | _ => .error ⟨.unclosedArgs, ts⟩

theorem read_args_step (fuel : Nat) (ts : List Token) :
    readArgs (fuel + 1) ts = readExpr fuel ts >>= fun found => afterArg fuel found.1 found.2 := rfl

theorem after_arg_refused (fuel : Nat) (arg : TypeExpr) (ts : List Token)
    (other : ts.head? ≠ some .comma ∧ ts.head? ≠ some .rightAngle) :
    afterArg fuel arg ts = .error ⟨.unclosedArgs, ts⟩ := by
  unfold afterArg
  split <;> simp_all

theorem dims_of_local (name : String) (args : List TypeExpr) (ts : List Token) : Local (Course.dimsOf name args) ts :=
  local_return readDims (fun dims => (⟨name, args, dims⟩ : TypeExpr)) ts (read_dims_local ts)

theorem course_local (fuel : Nat) (course : Course) (rest : List Token)
    (expr : ∀ ts, Local (readExpr fuel) ts) (args : ∀ ts, Local (readArgs fuel) ts) :
    Local (course.reader fuel) rest := by
  cases course with
  | unit => exact local_done TypeExpr.unit rest
  | unclosed => exact local_refused _ rest
  | bounded => exact expr rest
  | wildcard => exact local_done anything rest
  | generic name =>
      exact local_bind (readArgs fuel) (Course.dimsOf name) rest (args rest) fun args rest =>
        dims_of_local name args rest
  | plain name => exact dims_of_local name [] rest
  | nameless => exact local_refused _ rest

theorem after_arg_local (fuel : Nat) (arg : TypeExpr) (ts : List Token) (args : ∀ ts, Local (readArgs fuel) ts) :
    Local (afterArg fuel arg) ts := by
  by_cases comma : ts.head? = some .comma
  · obtain ⟨rest, rfl⟩ := List.head?_eq_some_iff.mp comma
    exact local_behind _ _ [.comma] rest (fun _ _ => rfl) (local_return (readArgs fuel) (arg :: ·) rest (args rest))
  · by_cases angle : ts.head? = some .rightAngle
    · obtain ⟨rest, rfl⟩ := List.head?_eq_some_iff.mp angle
      exact local_behind _ _ [.rightAngle] rest (fun _ _ => rfl) (local_done [arg] rest)
    · exact local_behind _ _ [] ts
        (fun later alike => after_arg_refused fuel arg later ⟨alike ▸ comma, alike ▸ angle⟩) (local_refused _ ts)

theorem readers_local (fuel : Nat) :
    (∀ ts, Local (readExpr fuel) ts) ∧ ∀ ts, Local (readArgs fuel) ts := by
  induction fuel with
  | zero => exact ⟨local_refused _, local_refused _⟩
  | succ fuel ih =>
      obtain ⟨expr, args⟩ := ih
      refine ⟨fun ts => ?_, fun ts => ?_⟩
      · obtain ⟨course, rest, rfl, same⟩ := read_expr_course ts
        exact local_behind _ _ course.front rest (same fuel) (course_local fuel course rest expr args)
      · exact local_bind (readExpr fuel) (afterArg fuel) ts (expr ts) fun arg rest =>
          after_arg_local fuel arg rest args

theorem derived_present (ts : List Token) (expr : TypeExpr) (derived : Derives ts expr) : 1 ≤ ts.length := by
  cases derived <;> simp

-- More calls than two for each token change nothing.
theorem readers_settled (fuel more : Nat) (ts : List Token) :
    (2 * ts.length + 1 ≤ fuel → 2 * ts.length + 1 ≤ more → readExpr fuel ts = readExpr more ts) ∧
    (2 * ts.length + 2 ≤ fuel → 2 * ts.length + 2 ≤ more → readArgs fuel ts = readArgs more ts) := by
  induction fuel generalizing more ts with
  | zero => exact ⟨fun enough => by omega, fun enough => by omega⟩
  | succ fuel ih =>
      refine ⟨fun enough also => ?_, fun enough also => ?_⟩
      · obtain ⟨more, rfl⟩ : ∃ less, more = less + 1 := Nat.exists_eq_add_of_le' (by omega)
        obtain ⟨course, rest, rfl, same⟩ := read_expr_course ts
        rw [same fuel rest rfl, same more rest rfl]
        rw [List.length_append] at enough also
        cases course with
        | bounded bound known =>
            simp only [Course.front, List.length_cons, List.length_nil] at enough also
            exact (ih more rest).1 (by omega) (by omega)
        | generic name =>
            simp only [Course.front, List.length_cons, List.length_nil] at enough also
            simp only [Course.reader, (ih more rest).2 (by omega) (by omega)]
        | unit | unclosed | wildcard | plain | nameless => rfl
      · obtain ⟨more, rfl⟩ : ∃ less, more = less + 1 := Nat.exists_eq_add_of_le' (by omega)
        rw [read_args_step, read_args_step, ← (ih more ts).1 (by omega) (by omega)]
        cases outcome : readExpr fuel ts with
        | error mismatch => rfl
        | ok found =>
            obtain ⟨own, whole, derived⟩ := read_expr_sound fuel ts found.1 found.2 outcome
            have taken := derived_present own found.1 derived
            rw [whole, List.length_append] at enough also
            simp only [bind, Except.bind, afterArg]
            split
            · next rest shape =>
                rw [shape, List.length_cons] at enough also
                rw [(ih more rest).2 (by omega) (by omega)]
            · rfl
            · rfl

end ClientPackager.TypeExpr
