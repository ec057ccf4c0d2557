import ClientPackager.Archive.EntryName
import ClientPackager.Proofs.Text.Pieces
import ClientPackager.Text.Basic

set_option autoImplicit false

namespace ClientPackager.Archive

def byteCount (cs : List Char) : Nat := (utf8 cs).length

-- The bytes of some pieces, and one more for each of them.
def weight (pieces : List (List Char)) : Nat := total (pieces.map fun piece => byteCount piece + 1)

theorem byte_count_cons (c : Char) (cs : List Char) : byteCount (c :: cs) = c.utf8Size + byteCount cs := by
  simp [byteCount, utf8]

theorem weight_cons (piece : List Char) (rest : List (List Char)) :
    weight (piece :: rest) = byteCount piece + 1 + weight rest := by
  rw [weight, List.map_cons, total_cons, weight]

theorem weight_append (front back : List (List Char)) : weight (front ++ back) = weight front + weight back := by
  rw [weight, List.map_append, total_append, weight, weight]

theorem pieces_weight (cs : List Char) : weight (Text.pieces '/' cs) = byteCount cs + 1 := by
  induction cs with
  | nil => rfl
  | cons c rest ih =>
      by_cases slash : c = '/'
      · have one : '/'.utf8Size = 1 := rfl
        have empty : byteCount [] = 0 := rfl
        rw [Text.pieces, if_pos slash, weight_cons, byte_count_cons, slash, one, empty, ih]
        omega
      · obtain ⟨piece, later, shape⟩ := List.exists_cons_of_ne_nil (Text.pieces_ne_nil '/' rest)
        rw [shape, weight_cons] at ih
        rw [Text.pieces, if_neg slash, shape, weight_cons, byte_count_cons, byte_count_cons]
        omega

theorem weight_filter (keep : List Char → Bool) (pieces : List (List Char)) :
    weight (pieces.filter keep) ≤ weight pieces := by
  induction pieces with
  | nil => simp
  | cons piece rest ih =>
      rw [List.filter_cons, weight_cons]
      split
      · rw [weight_cons]
        omega
      · omega

-- Behind a slash at the end of a name there is an empty piece, which makes room
-- for that slash.
theorem segments_weight (name : List Char) :
    weight (segments name) + (if name.getLast? = some '/' then 1 else 0) ≤ byteCount name + 1 := by
  rw [← pieces_weight]
  by_cases slash : name.getLast? = some '/'
  · obtain ⟨front, rfl⟩ := List.getLast?_eq_some_iff.mp slash
    have fewer := weight_filter (fun piece => piece ≠ [] && piece ≠ ['.']) (Text.pieces '/' front)
    have empty : weight [[]] = 1 := rfl
    rw [if_pos slash, segments, Text.pieces_concat, weight_append, empty, List.filter_append]
    simpa using fewer
  · rw [if_neg slash]
    exact weight_filter _ (Text.pieces '/' name)

theorem intersperse_count (pieces : List (List Char)) (present : pieces ≠ []) :
    total ((pieces.intersperse ['/']).map byteCount) + 1 = weight pieces := by
  induction pieces with
  | nil => exact absurd rfl present
  | cons piece rest ih =>
      cases rest with
      | nil => simp [weight, total]
      | cons next later =>
          have one : byteCount ['/'] = 1 := rfl
          have below := ih (by simp)
          rw [weight_cons, ← below]
          simp only [List.intersperse_cons_cons, List.map_cons, total_cons, one]
          omega

theorem written_count (name : List Char) : total ((written name).map byteCount) ≤ max (byteCount name) 2 := by
  have weights := segments_weight name
  have ending : total ((if name.getLast? = some '/' then [['/']] else []).map byteCount) =
      if name.getLast? = some '/' then 1 else 0 := by
    split <;> rfl
  rw [written, List.map_append, total_append, ending]
  by_cases bare : segments name = []
  · have dot : total ((([['.']] : List (List Char)).intersperse ['/']).map byteCount) = 1 := rfl
    rw [if_pos bare, dot]
    split <;> omega
  · have pieces := intersperse_count (segments name) bare
    rw [if_neg bare]
    omega

theorem writable_all (room : Nat) (pieces : List (List Char)) (clean : ∀ piece ∈ pieces, '\x00' ∉ piece)
    (fits : total (pieces.map byteCount) ≤ room) : writable room pieces = pieces := by
  induction pieces generalizing room with
  | nil => rfl
  | cons piece rest ih =>
      rw [List.map_cons, total_cons, byteCount] at fits
      have first : isWritable room piece = true := by
        have noNul := clean piece List.mem_cons_self
        simp [isWritable, noNul]
        omega
      rw [writable, if_pos first, ih (room - (utf8 piece).length)]
      · exact fun other member => clean other (List.mem_cons_of_mem piece member)
      · omega

theorem mem_intersperse (pieces : List (List Char)) (sep piece : List Char) (member : piece ∈ pieces.intersperse sep) :
    piece ∈ pieces ∨ piece = sep := by
  induction pieces with
  | nil => simp at member
  | cons first rest ih =>
      cases rest with
      | nil => exact .inl (by simpa using member)
      | cons next later =>
          rw [List.intersperse_cons_cons] at member
          rcases List.mem_cons.mp member with rfl | behind
          · exact .inl List.mem_cons_self
          · rcases List.mem_cons.mp behind with same | below
            · exact .inr same
            · exact (ih below).imp_left (List.mem_cons_of_mem first)

theorem written_clean (name : List Char) (clean : '\x00' ∉ name) : ∀ piece ∈ written name, '\x00' ∉ piece := by
  intro piece member nul
  rcases List.mem_append.mp member with inside | ending
  · rcases mem_intersperse _ _ _ inside with kept | slash
    · by_cases bare : segments name = []
      · rw [if_pos bare, List.mem_singleton] at kept
        simp [kept] at nul
      · rw [if_neg bare] at kept
        exact clean (Text.mem_of_mem_piece '/' name piece _ (List.mem_filter.mp kept).1 nul)
    · simp [slash] at nul
  · split at ending
    · simp_all
    · simp at ending

theorem whole_of_fits (name : List Char) (clean : '\x00' ∉ name) (fits : byteCount name ≤ nameSize) :
    isWhole name = true := by
  have count := written_count name
  have all := writable_all nameSize (written name) (written_clean name clean) (by
    simp only [nameSize] at fits ⊢
    omega)
  simpa [isWhole] using all

theorem fitting_start (room : Nat) (name : List Char) : fitting room name <+: name := by
  induction name generalizing room with
  | nil => simp [fitting]
  | cons c rest ih =>
      rw [fitting]
      split
      · exact List.cons_prefix_cons.mpr ⟨rfl, ih _⟩
      · exact List.nil_prefix

theorem fitting_count (room : Nat) (name : List Char) : byteCount (fitting room name) ≤ room := by
  induction name generalizing room with
  | nil => simp [fitting, byteCount, utf8]
  | cons c rest ih =>
      rw [fitting]
      split
      · have below := ih (room - c.utf8Size)
        rw [byte_count_cons]
        omega
      · simp [byteCount, utf8]

-- A name that does not fit is written whole elsewhere, and its start fits.
theorem of_name_succeeds (name : List Char) (present : name ≠ []) (clean : '\x00' ∉ name) :
    ∃ entry, EntryName.ofName name = .ok entry := by
  have start : isWhole (fitting nameSize name) = true := by
    apply whole_of_fits
    · exact fun nul => clean ((fitting_start nameSize name).subset nul)
    · exact fitting_count nameSize name
  by_cases whole : isWhole name = true
  · exact ⟨.short (overwrite emptyField name), by simp only [EntryName.ofName, if_neg present, if_pos whole]⟩
  · have large : ¬ (utf8 name).length < nameSize := fun small =>
      whole (whole_of_fits name clean (Nat.le_of_lt small))
    refine ⟨.long name (overwrite (overwrite emptyField name) (fitting nameSize name)), ?_⟩
    simp only [EntryName.ofName, if_neg present, if_neg whole, if_neg large, if_pos start]

end ClientPackager.Archive
