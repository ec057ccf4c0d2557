import ClientPackager.Client.Identifier
import ClientPackager.Text.Basic

set_option autoImplicit false

namespace ClientPackager.Client

-- A type as TypeScript reads it in a declaration. A union of three is one of
-- its first and of the other two.
inductive ScriptType where
  | named (name : String)
  | applied (generic : String) (argument : ScriptType)
  | array (element : ScriptType)
  | union (first rest : ScriptType)
deriving DecidableEq, Repr

namespace ScriptType

inductive Token where
  | name (text : String)
  | mark (c : Char)
deriving DecidableEq, Repr

def openName (letters : List Char) : List Token :=
  if letters = [] then [] else [.name (String.ofList letters.reverse)]

-- The tokens of a text behind the letters of a name, which were read last.
def tokensFrom (letters : List Char) : List Char → List Token
  | [] => openName letters
  | c :: rest =>
    if isIdentifierChar c then tokensFrom (c :: letters) rest
    else if Text.isBlank c then openName letters ++ tokensFrom [] rest
    else openName letters ++ .mark c :: tokensFrom [] rest

def tokens (cs : List Char) : List Token := tokensFrom [] cs

def brackets : Nat → List Token
  | 0 => []
  | dims + 1 => .mark '[' :: .mark ']' :: brackets dims

def arrays (element : ScriptType) : Nat → ScriptType
  | 0 => element
  | dims + 1 => .array (arrays element dims)

-- Brackets bind tighter than a bar.
inductive Level where
  | atom
  | bracketed
  | barred
deriving DecidableEq, Repr

inductive Reads : Level → List Token → ScriptType → Prop where
  | named (name : String) : Reads .atom [.name name] (.named name)
  | applied (generic : String) (ts : List Token) (argument : ScriptType) (inner : Reads .barred ts argument) :
      Reads .atom (.name generic :: .mark '<' :: (ts ++ [.mark '>'])) (.applied generic argument)
  | group (ts : List Token) (type : ScriptType) (inner : Reads .barred ts type) :
      Reads .atom (.mark '(' :: (ts ++ [.mark ')'])) type
  | bracketed (ts : List Token) (element : ScriptType) (dims : Nat) (inner : Reads .atom ts element) :
      Reads .bracketed (ts ++ brackets dims) (arrays element dims)
  | single (ts : List Token) (type : ScriptType) (only : Reads .bracketed ts type) : Reads .barred ts type
  | union (ts later : List Token) (first rest : ScriptType) (left : Reads .bracketed ts first)
      (right : Reads .barred later rest) : Reads .barred (ts ++ .mark '|' :: later) (.union first rest)

def Denotes (text : String) (type : ScriptType) : Prop := Reads .barred (tokens text.toList) type

-- The marks that a type of this level cannot be followed by.
def Level.goesOn : Level → List Char
  | .atom => ['<']
  | .bracketed => ['<', '[']
  | .barred => ['<', '[', '|']

def Ends (level : Level) (rest : List Token) : Prop := ∀ c ∈ level.goesOn, rest.head? ≠ some (.mark c)

theorem ends_tighter (level tighter : Level) (fewer : tighter.goesOn ⊆ level.goesOn) (rest : List Token)
    (ends : Ends level rest) : Ends tighter rest :=
  fun c listed => ends c (fewer listed)

theorem ends_mark (level : Level) (c : Char) (rest : List Token) (foreign : c ∉ level.goesOn) :
    Ends level (.mark c :: rest) := by
  intro other listed same
  obtain rfl : c = other := by simpa using same
  exact foreign listed

theorem ends_nothing (level : Level) : Ends level [] := by
  simp [Ends]

theorem ends_brackets (dims : Nat) (rest : List Token) (ends : Ends .bracketed rest) :
    Ends .atom (brackets dims ++ rest) := by
  cases dims with
  | zero => exact ends_tighter .bracketed .atom (by decide) rest ends
  | succ dims => exact ends_mark .atom '[' _ (by decide)

theorem never_goes_on (level : Level) (c : Char) (goes : c ∈ level.goesOn) (rest later : List Token)
    (ends : Ends level rest) : rest ≠ .mark c :: later :=
  fun same => ends c goes (congrArg List.head? same)

theorem brackets_unique (dims other : Nat) (rest more : List Token) (ends : Ends .bracketed rest)
    (stops : Ends .bracketed more) (same : brackets dims ++ rest = brackets other ++ more) : dims = other := by
  induction dims generalizing other with
  | zero =>
      cases other with
      | zero => rfl
      | succ other => exact absurd same (never_goes_on .bracketed '[' (by decide) _ _ ends)
  | succ dims ih =>
      cases other with
      | zero => exact absurd same.symm (never_goes_on .bracketed '[' (by decide) _ _ stops)
      | succ other =>
          obtain rfl := ih other (by simpa [brackets] using same)
          rfl

-- What is closed by a mark ends with it.
theorem closed_by_mark (c : Char) (ts us rest more : List Token)
    (same : ts ++ [.mark c] ++ rest = us ++ [.mark c] ++ more) :
    ts ++ .mark c :: rest = us ++ .mark c :: more := by
  simpa using same

-- The tokens are read as nothing but the type, and no others are read in their place,
-- also in front of more tokens.
def Only (level : Level) (ts : List Token) (type : ScriptType) : Prop :=
  ∀ (us rest more : List Token) (other : ScriptType), Reads level us other → ts ++ rest = us ++ more →
    Ends level rest → Ends level more → ts = us ∧ type = other

theorem named_only (name : String) : Only .atom [.name name] (.named name) := by
  intro us rest more other second same ends _
  cases second with
  | named own =>
      obtain rfl := Token.name.inj (List.cons.inj same).1
      exact ⟨rfl, rfl⟩
  | applied generic us argument _ => exact absurd (List.cons.inj same).2 (never_goes_on .atom '<' (by decide) _ _ ends)
  | group us other _ => exact absurd (List.cons.inj same).1 Token.noConfusion

theorem applied_only (generic : String) (ts : List Token) (argument : ScriptType) (inner : Only .barred ts argument) :
    Only .atom (.name generic :: .mark '<' :: (ts ++ [.mark '>'])) (.applied generic argument) := by
  intro us rest more other second same _ stops
  cases second with
  | named own => exact absurd (List.cons.inj same).2.symm (never_goes_on .atom '<' (by decide) _ _ stops)
  | applied own us other inside =>
      obtain rfl := Token.name.inj (List.cons.inj same).1
      have closed := closed_by_mark '>' ts us rest more (List.cons.inj (List.cons.inj same).2).2
      obtain ⟨rfl, rfl⟩ :=
        inner us _ _ other inside closed (ends_mark _ '>' _ (by decide)) (ends_mark _ '>' _ (by decide))
      exact ⟨rfl, rfl⟩
  | group us other _ => exact absurd (List.cons.inj same).1 Token.noConfusion

theorem group_only (ts : List Token) (type : ScriptType) (inner : Only .barred ts type) :
    Only .atom (.mark '(' :: (ts ++ [.mark ')'])) type := by
  intro us rest more other second same _ _
  cases second with
  | named own => exact absurd (List.cons.inj same).1 Token.noConfusion
  | applied own us argument _ => exact absurd (List.cons.inj same).1 Token.noConfusion
  | group us other inside =>
      have closed := closed_by_mark ')' ts us rest more (List.cons.inj same).2
      obtain ⟨rfl, rfl⟩ := inner us _ _ _ inside closed (ends_mark _ ')' _ (by decide)) (ends_mark _ ')' _ (by decide))
      exact ⟨rfl, rfl⟩

theorem bracketed_only (ts : List Token) (element : ScriptType) (dims : Nat) (inner : Only .atom ts element) :
    Only .bracketed (ts ++ brackets dims) (arrays element dims) := by
  intro us rest more other second same ends stops
  cases second with
  | bracketed us other count inside =>
      rw [List.append_assoc, List.append_assoc] at same
      obtain ⟨rfl, rfl⟩ :=
        inner us _ _ other inside same (ends_brackets dims rest ends) (ends_brackets count more stops)
      obtain rfl := brackets_unique dims count rest more ends stops (List.append_cancel_left same)
      exact ⟨rfl, rfl⟩

theorem single_only (ts : List Token) (type : ScriptType) (inner : Only .bracketed ts type) : Only .barred ts type := by
  intro us rest more other second same ends stops
  have alone := ends_tighter .barred .bracketed (by decide) rest ends
  cases second with
  | single us other only =>
      exact inner us rest more other only same alone (ends_tighter .barred .bracketed (by decide) more stops)
  | union us later left right begins _ =>
      rw [List.append_assoc] at same
      obtain ⟨rfl, _⟩ := inner us rest _ left begins same alone (ends_mark _ '|' _ (by decide))
      exact absurd (List.append_cancel_left same) (never_goes_on .barred '|' (by decide) _ _ ends)

theorem union_only (ts later : List Token) (first others : ScriptType) (left : Only .bracketed ts first)
    (right : Only .barred later others) : Only .barred (ts ++ .mark '|' :: later) (.union first others) := by
  intro us rest more other second same ends stops
  rw [List.append_assoc] at same
  have bar (tail : List Token) : Ends .bracketed (.mark '|' :: tail) := ends_mark _ '|' tail (by decide)
  cases second with
  | single us other only =>
      have alone := ends_tighter .barred .bracketed (by decide) more stops
      obtain ⟨rfl, _⟩ := left us _ more other only same (bar _) alone
      exact absurd (List.append_cancel_left same).symm (never_goes_on .barred '|' (by decide) _ _ stops)
  | union us behind begun other begins goes =>
      rw [List.append_assoc] at same
      obtain ⟨rfl, rfl⟩ := left us _ _ begun begins same (bar _) (bar _)
      have tails : later ++ rest = behind ++ more := (List.cons.inj (List.append_cancel_left same)).2
      obtain ⟨rfl, rfl⟩ := right behind rest more other goes tails ends stops
      exact ⟨rfl, rfl⟩

theorem reads_only (level : Level) (ts : List Token) (type : ScriptType) (reads : Reads level ts type) :
    Only level ts type := by
  induction reads with
  | named name => exact named_only name
  | applied generic ts argument _ ih => exact applied_only generic ts argument ih
  | group ts type _ ih => exact group_only ts type ih
  | bracketed ts element dims _ ih => exact bracketed_only ts element dims ih
  | single ts type _ ih => exact single_only ts type ih
  | union ts later first others _ _ left right => exact union_only ts later first others left right

theorem denotes_unique (text : String) (type other : ScriptType) (first : Denotes text type)
    (second : Denotes text other) : type = other :=
  (reads_only .barred _ type first _ [] [] other second rfl (ends_nothing _) (ends_nothing _)).2

def IsName (text : String) : Prop := text.toList ≠ [] ∧ ∀ c ∈ text.toList, isIdentifierChar c = true

instance (text : String) : Decidable (IsName text) :=
  decidable_of_iff (text.toList ≠ [] ∧ text.toList.all isIdentifierChar = true)
    (and_congr_right fun _ => List.all_eq_true)

def foreign (c : Char) : Bool := !isIdentifierChar c

theorem tokens_cons (letters : List Char) (c : Char) (rest : List Char) (outside : foreign c = true) :
    tokensFrom letters (c :: rest) = openName letters ++ tokens (c :: rest) := by
  have parted : ¬ isIdentifierChar c = true := by simpa [foreign] using outside
  by_cases white : Text.isBlank c <;> simp [tokens, tokensFrom, parted, white, openName]

theorem tokens_before (letters cs : List Char) (c : Char) (rest : List Char) (outside : foreign c = true) :
    tokensFrom letters (cs ++ c :: rest) = tokensFrom letters cs ++ tokens (c :: rest) := by
  induction cs generalizing letters with
  | nil => exact tokens_cons letters c rest outside
  | cons d later ih =>
      by_cases inName : isIdentifierChar d
      · simp only [List.cons_append, tokensFrom, if_pos inName, ih]
      · by_cases white : Text.isBlank d
        · simp only [List.cons_append, tokensFrom, if_neg inName, if_pos white, ih, List.append_assoc]
        · simp only [List.cons_append, tokensFrom, if_neg inName, if_neg white, ih, List.append_assoc]

theorem tokens_behind (c : Char) (rest : List Char) (outside : foreign c = true) :
    tokens (c :: rest) = tokens [c] ++ tokens rest := by
  have parted : ¬ isIdentifierChar c = true := by simpa [foreign] using outside
  by_cases white : Text.isBlank c <;> simp [tokens, tokensFrom, parted, white, openName]

@[simp] theorem tokens_nil : tokens [] = [] := rfl

-- A text that parts the names before it from those behind it.
def Parts (between : String) (ts : List Token) : Prop :=
  between.toList.head?.any foreign = true ∧ between.toList.getLast?.any foreign = true ∧ tokens between.toList = ts

instance (between : String) (ts : List Token) : Decidable (Parts between ts) := inferInstanceAs (Decidable (_ ∧ _))

theorem tokens_parted (front back : List Char) (between : String) (ts : List Token) (parts : Parts between ts) :
    tokens (front ++ between.toList ++ back) = tokens front ++ ts ++ tokens back := by
  obtain ⟨opens, closes, rfl⟩ := parts
  obtain ⟨first, begins, outside⟩ := (Option.any_eq_true _ _).mp opens
  obtain ⟨last, stops, beyond⟩ := (Option.any_eq_true _ _).mp closes
  obtain ⟨later, split⟩ := List.head?_eq_some_iff.mp begins
  obtain ⟨earlier, whole⟩ := List.getLast?_eq_some_iff.mp stops
  have before (cs : List Char) (c : Char) (rest : List Char) (parted : foreign c = true) :
      tokens (cs ++ c :: rest) = tokens cs ++ tokens (c :: rest) := tokens_before [] cs c rest parted
  calc tokens (front ++ between.toList ++ back)
      = tokens front ++ tokens (between.toList ++ back) := by
        rw [split, List.append_assoc, List.cons_append, before front first _ outside]
    _ = tokens front ++ (tokens earlier ++ (tokens [last] ++ tokens back)) := by
        rw [whole, List.append_assoc, List.singleton_append, before earlier last back beyond, tokens_behind last back beyond]
    _ = tokens front ++ tokens between.toList ++ tokens back := by
        rw [whole, before earlier last [] beyond, List.append_assoc, List.append_assoc]

theorem tokens_letters (letters name : List Char) (own : ∀ c ∈ name, isIdentifierChar c = true) :
    tokensFrom letters name = openName (name.reverse ++ letters) := by
  induction name generalizing letters with
  | nil => rfl
  | cons c rest ih =>
      rw [tokensFrom, if_pos (own c List.mem_cons_self), ih (c :: letters) fun d member => own d (List.mem_cons_of_mem c member)]
      simp

theorem tokens_name (name : String) (proper : IsName name) : tokens name.toList = [.name name] := by
  rw [tokens, tokens_letters [] name.toList proper.2, openName, if_neg (by simpa using proper.1)]
  simp

end ScriptType

theorem protected_start (cs : List Char) (kept : ∀ c ∈ cs, isIdentifierChar c = true) :
    protectStart cs ≠ [] ∧ ∀ c ∈ protectStart cs, isIdentifierChar c = true := by
  have underscore : isIdentifierChar '_' = true := by decide
  cases cs with
  | nil => simpa [protectStart] using underscore
  | cons first rest =>
      rw [protectStart]
      split
      · exact ⟨by simp, List.forall_mem_cons.mpr ⟨underscore, kept⟩⟩
      · exact ⟨by simp, kept⟩

theorem identifier_is_name (name : String) : ScriptType.IsName (identifier name) := by
  have underscore : isIdentifierChar '_' = true := by decide
  have kept : ∀ c ∈ replaceForeign name.toList, isIdentifierChar c = true := by
    intro c member
    obtain ⟨letter, _, rfl⟩ := List.mem_map.mp member
    by_cases own : isIdentifierChar letter <;> simp [own, underscore]
  obtain ⟨present, letters⟩ := protected_start _ kept
  simp only [identifier]
  split
  · exact ⟨by simp, by simpa [or_imp, forall_and, underscore] using letters⟩
  · exact ⟨by simpa using present, by simpa using letters⟩

end ClientPackager.Client
