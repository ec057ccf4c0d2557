import Mathlib.Data.List.Induction
import Mathlib.Data.List.TakeWhile
import ClientPackager.Text.Split

set_option autoImplicit false

namespace ClientPackager.Text

variable (sep : Char)

theorem pieces_clear (piece : List Char) (clear : sep ∉ piece) : pieces sep piece = [piece] := by
  induction piece with
  | nil => rfl
  | cons c rest ih =>
      have other : c ≠ sep := fun same => clear (same ▸ List.mem_cons_self)
      rw [pieces, if_neg other, ih fun inside => clear (List.mem_cons_of_mem c inside)]

theorem pieces_cut (front rest : List Char) : pieces sep (front ++ sep :: rest) = pieces sep front ++ pieces sep rest := by
  induction front with
  | nil => simp [pieces]
  | cons c later ih =>
      by_cases same : c = sep
      · simp [pieces, same, ih]
      · obtain ⟨piece, others, shape⟩ := List.exists_cons_of_ne_nil (pieces_ne_nil sep later)
        rw [List.cons_append, pieces, if_neg same, ih, pieces, if_neg same, shape]
        rfl

theorem pieces_append (piece rest : List Char) (clear : sep ∉ piece) :
    pieces sep (piece ++ sep :: rest) = piece :: pieces sep rest := by
  rw [pieces_cut, pieces_clear sep piece clear, List.singleton_append]

theorem pieces_concat (cs : List Char) : pieces sep (cs ++ [sep]) = pieces sep cs ++ [[]] := pieces_cut sep cs []

theorem pieces_intercalate (parts : List (List Char)) (present : parts ≠ []) (clear : ∀ part ∈ parts, sep ∉ part) :
    pieces sep ([sep].intercalate parts) = parts := by
  induction parts with
  | nil => exact absurd rfl present
  | cons part rest ih =>
      have first : sep ∉ part := clear part List.mem_cons_self
      cases rest with
      | nil => simpa using pieces_clear sep part first
      | cons next later =>
          have below := ih (by simp) fun other member => clear other (List.mem_cons_of_mem part member)
          rw [List.intercalate_cons_cons, List.append_assoc, List.singleton_append, pieces_append sep part _ first, below]

theorem drop_trailing_kept (front : List Char) (last : Char) (other : last ≠ sep) :
    dropTrailing sep (String.ofList (front ++ [last])) = String.ofList (front ++ [last]) := by
  simp [dropTrailing, other]

theorem drop_trailing_dropped (front ending : List Char) (all : ∀ c ∈ ending, c = sep) :
    dropTrailing sep (String.ofList (front ++ ending)) = dropTrailing sep (String.ofList front) := by
  have gone : ∀ c ∈ ending.reverse, (c == sep) = true := fun c member => by
    simpa using all c (List.mem_reverse.mp member)
  simp only [dropTrailing, String.toList_ofList, List.reverse_append]
  rw [List.dropWhile_append_of_pos gone]

-- Where a text ends once the separators at its end are gone.
theorem trailing_shape (cs : List Char) : ∃ kept ending, cs = kept ++ ending ∧ (∀ c ∈ ending, c = sep) ∧
    (kept = [] ∨ ∃ front last, kept = front ++ [last] ∧ last ≠ sep) := by
  induction cs using List.reverseRecOn with
  | nil => exact ⟨[], [], rfl, by simp, .inl rfl⟩
  | append_singleton front last ih =>
      by_cases same : last = sep
      · obtain ⟨kept, ending, shape, all, ends⟩ := ih
        refine ⟨kept, ending ++ [last], by simp [shape], ?_, ends⟩
        intro c member
        rcases List.mem_append.mp member with before | atEnd
        · exact all c before
        · rw [List.mem_singleton.mp atEnd, same]
      · exact ⟨front ++ [last], [], by simp, by simp, .inr ⟨front, last, rfl, same⟩⟩

theorem mem_of_mem_piece (cs piece : List Char) (c : Char) (member : piece ∈ pieces sep cs) (inside : c ∈ piece) :
    c ∈ cs := by
  induction cs generalizing piece with
  | nil => simp_all [pieces]
  | cons head rest ih =>
      obtain ⟨first, later, shape⟩ := List.exists_cons_of_ne_nil (pieces_ne_nil sep rest)
      have below (other : List Char) (listed : other ∈ first :: later) (has : c ∈ other) : c ∈ head :: rest :=
        List.mem_cons_of_mem head (ih other (shape ▸ listed) has)
      by_cases same : head = sep
      · rw [pieces, if_pos same, shape] at member
        rcases List.mem_cons.mp member with rfl | listed
        · simp at inside
        · exact below piece listed inside
      · rw [pieces, if_neg same, shape] at member
        rcases List.mem_cons.mp member with rfl | listed
        · rcases List.mem_cons.mp inside with rfl | has
          · exact List.mem_cons_self
          · exact below first List.mem_cons_self has
        · exact below piece (List.mem_cons_of_mem first listed) inside

theorem kept_behind (tail : List Char) (clear : sep ∉ tail) : ∀ c ∈ tail.reverse, (!(c == sep)) = true := by
  intro c member
  have other : c ≠ sep := fun same => clear (same ▸ List.mem_reverse.mp member)
  simpa using other

theorem after_last_whole (cs : List Char) (clear : sep ∉ cs) :
    afterLast sep (String.ofList cs) = String.ofList cs := by
  have kept : cs.reverse.takeWhile (fun c => !(c == sep)) = cs.reverse := by
    simpa using @List.takeWhile_append_of_pos _ (fun c => !(c == sep)) cs.reverse [] (kept_behind sep cs clear)
  simp [afterLast, afterLastBy, kept]

theorem after_last_tail (front tail : List Char) (clear : sep ∉ tail) :
    afterLast sep (String.ofList (front ++ sep :: tail)) = String.ofList tail := by
  simp [afterLast, afterLastBy, List.takeWhile_append_of_pos (kept_behind sep tail clear)]

theorem after_last_clear (s : String) : sep ∉ (afterLast sep s).toList := by
  rw [afterLast, afterLastBy, String.toList_ofList, List.mem_reverse]
  intro member
  simpa using List.mem_takeWhile_imp member

-- The last piece, and what stands in front of it up to a separator.
theorem after_last_split (s : String) :
    s = afterLast sep s ∨ ∃ front, s.toList = front ++ sep :: (afterLast sep s).toList := by
  have parts := List.takeWhile_append_dropWhile (p := fun c => !(c == sep)) (l := s.toList.reverse)
  have tail : (afterLast sep s).toList = (s.toList.reverse.takeWhile fun c => !(c == sep)).reverse := by
    simp [afterLast, afterLastBy]
  cases behind : s.toList.reverse.dropWhile (fun c => !(c == sep)) with
  | nil =>
      refine .inl (String.toList_inj.mp ?_)
      rw [behind, List.append_nil] at parts
      rw [tail, parts, List.reverse_reverse]
  | cons c rest =>
      have stop : c = sep := by
        have head := List.head?_dropWhile_not (fun c => !(c == sep)) s.toList.reverse
        simpa [behind] using head
      refine .inr ⟨rest.reverse, ?_⟩
      have whole := congrArg List.reverse parts
      rw [behind, stop, List.reverse_append, List.reverse_cons, List.append_assoc, List.reverse_reverse] at whole
      rw [tail]
      exact whole.symm

theorem after_last_iff (s tail : String) : afterLast sep s = tail ↔
    sep ∉ tail.toList ∧ (s = tail ∨ ∃ front, s.toList = front ++ sep :: tail.toList) := by
  constructor
  · rintro rfl
    exact ⟨after_last_clear sep s, after_last_split sep s⟩
  · rintro ⟨clear, rfl | ⟨front, shape⟩⟩
    · simpa using after_last_whole sep s.toList clear
    · have last := after_last_tail sep front tail.toList clear
      rwa [← shape, String.ofList_toList, String.ofList_toList] at last

-- An item of a joined list, and what stands in front of it if it is not the first.
theorem intercalate_infix (between item : String) (items : List String) (member : item ∈ items) :
    ∃ before after, between.intercalate items = before ++ item ++ after ∧
      (before = "" ∨ ∃ front, before = front ++ between) := by
  induction items with
  | nil => simp at member
  | cons first rest ih =>
      cases rest with
      | nil => exact ⟨"", "", by simp [List.mem_singleton.mp member], .inl rfl⟩
      | cons next later =>
          rw [String.intercalate_cons_cons]
          rcases List.mem_cons.mp member with rfl | below
          · exact ⟨"", between ++ between.intercalate (next :: later), by simp [String.append_assoc], .inl rfl⟩
          · obtain ⟨before, after, shape, ends⟩ := ih below
            refine ⟨first ++ between ++ before, after, by simp [shape, String.append_assoc], .inr ?_⟩
            rcases ends with rfl | ⟨front, rfl⟩
            · exact ⟨first, by simp⟩
            · exact ⟨first ++ between ++ front, by simp only [String.append_assoc]⟩

end ClientPackager.Text
