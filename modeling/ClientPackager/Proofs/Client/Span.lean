import Mathlib.Data.List.Infix
import ClientPackager.Proofs.Client.Block

set_option autoImplicit false

namespace ClientPackager.Client

open Template (lines)

-- A file is put together from words of its own and from texts that a document
-- gives.
inductive Voice where
  | own
  | given
deriving DecidableEq, Repr

structure Span where
  voice : Voice
  text : String
deriving DecidableEq, Repr

namespace Span

abbrev own (text : String) : Span := ⟨.own, text⟩

abbrev given (text : String) : Span := ⟨.given, text⟩

def spelled (spans : List Span) : String := String.join (spans.map text)

def givenTexts (spans : List Span) : List String := (spans.filter fun span => span.voice = .given).map text

-- Blocks with a span between each two of them, and nothing at all for none.
def blocks (opening between : String) (all : List (List Span)) : List Span :=
  if all = [] then [] else own opening :: ([own between].intercalate all ++ [own "\n"])

end Span

-- Where a reader stands behind some characters of a file: in code, maybe with a
-- slash just read, or in a block comment, maybe with an asterisk. Only the
-- file's own words open a comment, and only its own words may end one.
inductive Position where
  | code (slash : Bool)
  | comment (star : Option Voice)
  | escaped
deriving DecidableEq, Repr

namespace Position

def step (voice : Voice) : Position → Char → Position
  | .code slash, c =>
    if voice = .given then .code false
    else if slash && c == '*' then .comment none
    else .code (c == '/')
  | .comment star, c =>
    if c = '/' ∧ star.isSome then
      if star = some .own ∧ voice = .own then .code false else .escaped
    else .comment (if c = '*' then some voice else none)
  | .escaped, _ => .escaped

def along (position : Position) (span : Span) : Position := span.text.toList.foldl (step span.voice) position

def through (position : Position) (spans : List Span) : Position := spans.foldl along position

end Position

-- Every comment that the file opens is ended by the file.
def Contained (spans : List Span) : Prop := (Position.code false).through spans = .code false

def Harmless (text : String) : Prop := ¬ ['*', '/'] <:+: text.toList

instance (text : String) : Decidable (Harmless text) := inferInstanceAs (Decidable (¬ _))

theorem harmless_without_slash (text : String) (absent : '/' ∉ text.toList) : Harmless text :=
  fun ends => absent (ends.subset (by simp))

section Reading

open Position (step along through)

theorem through_nil (position : Position) : position.through [] = position := rfl

theorem through_cons (position : Position) (span : Span) (rest : List Span) :
    position.through (span :: rest) = (position.along span).through rest := rfl

theorem through_append (position : Position) (front back : List Span) :
    position.through (front ++ back) = (position.through front).through back := List.foldl_append

theorem along_append (position : Position) (voice : Voice) (front back : String) :
    position.along ⟨voice, front ++ back⟩ = (position.along ⟨voice, front⟩).along ⟨voice, back⟩ := by
  simp [along, String.toList_append, List.foldl_append]

theorem words_along (words : List Char) (position next : Position) (moved : words.foldl (step .own) position = next) :
    position.along (.own (String.ofList words)) = next := by
  rw [along, String.toList_ofList, moved]

theorem escaped_along (span : Span) : Position.escaped.along span = .escaped := by
  rw [along]
  induction span.text.toList with
  | nil => rfl
  | cons c rest ih => exact ih

theorem escaped_through (spans : List Span) : Position.escaped.through spans = .escaped := by
  induction spans with
  | nil => rfl
  | cons span rest ih => rw [through, List.foldl_cons, escaped_along]; exact ih

-- A given text opens no comment.
theorem given_in_code (text : String) : (Position.code false).along (.given text) = .code false := by
  rw [along]
  induction text.toList with
  | nil => rfl
  | cons c rest ih => exact ih

theorem step_in_comment (voice : Voice) (star : Option Voice) (c : Char) (apart : star = none ∨ c ≠ '/') :
    step voice (.comment star) c = .comment (if c = '*' then some voice else none) := by
  rw [step, if_neg]
  rintro ⟨rfl, behind⟩
  rcases apart with rfl | solid
  · simp at behind
  · exact solid rfl

theorem harmless_in_comment (cs : List Char) (star : Option Voice) (harmless : ¬ ['*', '/'] <:+: cs)
    (apart : star = none ∨ cs.head? ≠ some '/') : ∃ last, cs.foldl (step .given) (.comment star) = .comment last := by
  induction cs generalizing star with
  | nil => exact ⟨star, rfl⟩
  | cons c rest ih =>
      rw [List.foldl_cons, step_in_comment .given star c (by simpa using apart)]
      apply ih _ fun later => harmless (later.trans (List.suffix_cons c rest).isInfix)
      by_cases asterisk : c = '*'
      · refine .inr fun slash => harmless ?_
        obtain ⟨later, rfl⟩ := List.head?_eq_some_iff.mp slash
        exact asterisk ▸ (List.prefix_append ['*', '/'] later).isInfix
      · exact .inl (if_neg asterisk)

theorem harmful_in_comment (cs : List Char) (star : Option Voice) (ends : ['*', '/'] <:+: cs) :
    cs.foldl (step .given) (.comment star) = .escaped := by
  have stays : ∀ later : List Char, later.foldl (step .given) .escaped = .escaped := fun later => by
    have same := escaped_along (.given (String.ofList later))
    rwa [along, String.toList_ofList] at same
  induction cs generalizing star with
  | nil => simp at ends
  | cons c rest ih =>
      rw [List.foldl_cons]
      rcases List.infix_cons_iff.mp ends with front | later
      · obtain ⟨back, shape⟩ := front
        obtain ⟨rfl, rfl⟩ : '*' = c ∧ '/' :: back = rest := by simpa using shape
        rw [step_in_comment .given star '*' (.inr (by decide))]
        exact stays back
      · by_cases here : c = '/' ∧ star.isSome
        · rw [step, if_pos here, if_neg (by simp)]
          exact stays rest
        · rw [step, if_neg here]
          exact ih _ later

-- Words that neither end a comment nor help a text in front of them to end it.
structure Quiet (words : String) : Prop where
  present : words ≠ ""
  solid : words.toList.head? ≠ some '/'
  kept : (Position.comment none).along (.own words) = .comment none

theorem quiet_literal (c : Char) (words : List Char) (apart : c ≠ '/')
    (kept : (c :: words).foldl (step .own) (.comment none) = .comment none) : Quiet (String.ofList (c :: words)) :=
  ⟨by simp, by simpa using apart, words_along _ _ _ kept⟩

theorem quiet_along (words : String) (star : Option Voice) (quiet : Quiet words) :
    (Position.comment star).along (.own words) = .comment none := by
  obtain ⟨present, solid, kept⟩ := quiet
  rw [← kept]
  cases shape : words.toList with
  | nil => exact absurd (String.toList_eq_nil_iff.mp shape) present
  | cons c rest =>
      rw [shape] at solid
      have apart : c ≠ '/' := by simpa using solid
      simp only [along, shape, List.foldl_cons, step_in_comment .own _ c (.inr apart)]

-- What stands in a comment: behind each given text there are quiet words.
def Laid : List Span → Prop
  | [] => True
  | ⟨.own, words⟩ :: rest => Quiet words ∧ Laid rest
  | ⟨.given, _⟩ :: ⟨.own, words⟩ :: rest => Quiet words ∧ Laid rest
  | ⟨.given, _⟩ :: _ => False

theorem laid_append (front back : List Span) (first : Laid front) (later : Laid back) : Laid (front ++ back) := by
  fun_induction Laid front with
  | case1 => exact later
  | case2 words rest ih => exact ⟨first.1, ih first.2⟩
  | case3 text words rest ih => exact ⟨first.1, ih first.2⟩
  | case4 => exact first.elim

theorem laid_each {α : Type} (spans : α → List Span) (values : List α) (each : ∀ value, Laid (spans value)) :
    Laid (values.flatMap spans) := by
  induction values with
  | nil => trivial
  | cons value rest ih => exact laid_append _ _ (each value) ih

-- Where a reader stands behind texts that must not end a comment.
def verdict (texts : List String) (position : Position) : Position :=
  if ∀ text ∈ texts, Harmless text then position else .escaped

theorem verdict_nil (position : Position) : verdict [] position = position := if_pos (by simp)

theorem verdict_append (front back : List String) (position : Position) :
    verdict (front ++ back) position = verdict front (verdict back position) := by
  simp only [verdict, List.forall_mem_append, ite_and]

theorem verdict_through (texts : List String) (position : Position) (spans : List Span) :
    (verdict texts position).through spans = verdict texts (position.through spans) := by
  by_cases harmless : ∀ text ∈ texts, Harmless text
  · rw [verdict, verdict, if_pos harmless, if_pos harmless]
  · rw [verdict, verdict, if_neg harmless, if_neg harmless, escaped_through]

theorem verdict_code (texts : List String) :
    verdict texts (.code false) = .code false ↔ ∀ text ∈ texts, Harmless text := by
  simp [verdict]

theorem verdict_congr (texts others : List String) (position : Position)
    (same : (∀ text ∈ texts, Harmless text) ↔ ∀ text ∈ others, Harmless text) :
    verdict texts position = verdict others position := by
  simp only [verdict, same]

theorem given_then_words (text words : String) (quiet : Quiet words) :
    (Position.comment none).through [.given text, .own words] = verdict [text] (.comment none) := by
  by_cases harmless : Harmless text
  · obtain ⟨last, read⟩ := harmless_in_comment text.toList none harmless (.inl rfl)
    have behind : (Position.comment none).along (.given text) = .comment last := read
    simp [through, behind, quiet_along words last quiet, verdict, harmless]
  · have read : (Position.comment none).along (.given text) = .escaped :=
      harmful_in_comment text.toList none (not_not.mp harmless)
    simp [through, read, escaped_along, verdict, harmless]

theorem laid_through (spans : List Span) (laid : Laid spans) :
    (Position.comment none).through spans = verdict (Span.givenTexts spans) (.comment none) := by
  fun_induction Laid spans with
  | case1 => exact (verdict_nil _).symm
  | case2 words rest ih =>
      rw [through, List.foldl_cons, quiet_along words none laid.1]
      exact ih laid.2
  | case3 text words rest ih =>
      have split := through_append (.comment none) [.given text, .own words] rest
      rw [given_then_words text words laid.1, verdict_through, ih laid.2, ← verdict_append] at split
      exact split
  | case4 => exact laid.elim

-- A comment and what is in front of it and behind it.
theorem comment_through (opening closing : String) (body rest : List Span)
    (opens : (Position.code false).along (.own opening) = .comment none) (laid : Laid body)
    (closes : (Position.comment none).along (.own closing) = .code false) :
    (Position.code false).through (.own opening :: (body ++ .own closing :: rest)) =
      verdict (Span.givenTexts body) ((Position.code false).through rest) := by
  have behind : (Position.comment none).through (.own closing :: rest) = (Position.code false).through rest := by
    rw [through, List.foldl_cons, closes]
    rfl
  rw [through, List.foldl_cons, opens]
  have inside := through_append (.comment none) body (.own closing :: rest)
  rwa [laid_through body laid, verdict_through, behind] at inside

-- Words that open no comment.
def Calm (words : String) : Prop := (Position.code false).along (.own words) = .code false

def Uncommented (spans : List Span) : Prop := ∀ span ∈ spans, span.voice = .own → Calm span.text

theorem uncommented_through (spans : List Span) (free : Uncommented spans) :
    (Position.code false).through spans = .code false := by
  induction spans with
  | nil => rfl
  | cons span rest ih =>
      obtain ⟨first, later⟩ := List.forall_mem_cons.mp free
      have kept : (Position.code false).along span = .code false := by
        rcases span with ⟨_ | _, text⟩
        · exact first rfl
        · exact given_in_code text
      rw [through, List.foldl_cons, kept]
      exact ih later

section Blocks

variable {α : Type} (spans : α → List Span) (texts : α → List String)
  (each : ∀ value, (Position.code false).through (spans value) = verdict (texts value) (.code false))
  (opening between : String) (calm : Calm between) (values : List α)

include each calm

theorem separated_through :
    (Position.code false).through ([.own between].intercalate (values.map spans)) =
      verdict (values.flatMap texts) (.code false) := by
  induction values with
  | nil => exact (verdict_nil _).symm
  | cons value rest ih =>
      cases rest with
      | nil => simpa using each value
      | cons next later =>
          have apart : (Position.code false).through [.own between] = .code false := calm
          rw [List.map_cons, List.map_cons, List.intercalate_cons_cons, through_append, through_append, each,
            verdict_through, apart, verdict_through, ← List.map_cons, ih, ← verdict_append]
          rfl

theorem blocks_through (before : Calm opening) :
    (Position.code false).through (Span.blocks opening between (values.map spans)) =
      verdict (values.flatMap texts) (.code false) := by
  rw [Span.blocks]
  split
  · next none =>
      obtain rfl : values = [] := by simpa using none
      exact (verdict_nil _).symm
  · have feed : (Position.code false).along (.own "\n") = .code false := words_along _ _ _ rfl
    have opened : (Position.code false).along (.own opening) = .code false := before
    rw [through, List.foldl_cons, opened]
    have inner := through_append (.code false) ([Span.own between].intercalate (values.map spans)) [.own "\n"]
    rwa [separated_through spans texts each between calm values, verdict_through, through_cons, feed] at inner

end Blocks

-- Lines of a file's own, in code and in comments that they open and end.
inductive Lined : Position → List String → Position → Prop where
  | nil (position : Position) : Lined position [] position
  | code (line : List Char) (rest : List String) (last : Position) (calm : line.all (· != '/') = true)
      (later : Lined (.code false) rest last) : Lined (.code false) (String.ofList line :: rest) last
  | inside (line : List Char) (rest : List String) (last : Position) (calm : line.all (· != '/') = true)
      (later : Lined (.comment none) rest last) : Lined (.comment none) (String.ofList line :: rest) last
  | crossing (line : List Char) (rest : List String) (position next last : Position)
      (moved : (line ++ ['\n']).foldl (step .own) position = next) (later : Lined next rest last) :
      Lined position (String.ofList line :: rest) last

theorem calm_code (line : List Char) (calm : line.all (· != '/') = true) :
    line.foldl (step .own) (.code false) = .code false := by
  induction line with
  | nil => rfl
  | cons c rest ih =>
      rw [List.all_cons, Bool.and_eq_true] at calm
      have apart : (c == '/') = false := by simpa using calm.1
      simpa [step, apart] using ih calm.2

theorem calm_comment (line : List Char) (star : Option Voice) (calm : line.all (· != '/') = true) :
    ∃ last, line.foldl (step .own) (.comment star) = .comment last := by
  induction line generalizing star with
  | nil => exact ⟨star, rfl⟩
  | cons c rest ih =>
      rw [List.all_cons, Bool.and_eq_true] at calm
      rw [List.foldl_cons, step_in_comment .own star c (.inr (by simpa using calm.1))]
      exact ih _ calm.2

theorem along_lines (position next last : Position) (line : List Char) (rest : List String)
    (moved : (line ++ ['\n']).foldl (step .own) position = next) (later : next.along (.own (lines rest)) = last) :
    position.along (.own (lines (String.ofList line :: rest))) = last := by
  rw [lines, List.map_cons, String.join_cons, along_append, ← later, ← moved]
  simp [along, lines]

theorem lined_along (position last : Position) (all : List String) (lined : Lined position all last) :
    position.along (.own (lines all)) = last := by
  induction lined with
  | nil position => rfl
  | code line rest last calm _ ih =>
      refine along_lines _ _ last line rest ?_ ih
      rw [List.foldl_append, calm_code line calm]
      rfl
  | inside line rest last calm _ ih =>
      refine along_lines _ _ last line rest ?_ ih
      obtain ⟨star, read⟩ := calm_comment line none calm
      rw [List.foldl_append, read]
      exact step_in_comment .own star '\n' (.inr (by decide))
  | crossing line rest position next last moved _ ih => exact along_lines _ next last line rest moved ih

theorem lined_then (position next last : Position) (all : List String) (words : List Char)
    (lined : Lined position all next) (moved : words.foldl (step .own) next = last) :
    position.along (.own (lines all ++ String.ofList words)) = last := by
  rw [along_append, lined_along position next all lined, words_along words next last moved]

end Reading

end ClientPackager.Client
