import Mathlib.Tactic.SplitIfs
import ClientPackager.Proofs.Archive.EntryName
import ClientPackager.Proofs.Archive.Reader

set_option autoImplicit false

namespace ClientPackager.Archive

theorem byte_not_zero (n : Nat) (positive : 0 < n) (small : n < 256) : 0 ≠ UInt8.ofNat n := by
  intro zero
  have value := congrArg UInt8.toNat zero
  rw [UInt8.toNat_ofNat', Nat.mod_eq_of_lt small] at value
  exact Nat.ne_of_lt positive value

-- Every byte of a character behind ASCII has its highest bit set.
theorem nul_of_zero_byte (c : Char) (zero : 0 ∈ String.utf8EncodeChar c) : c = '\x00' := by
  refine Decidable.byContradiction fun other => ?_
  have value : 0 < c.val.toNat := Nat.pos_of_ne_zero fun none => other (Char.ext (UInt32.toNat_inj.mp none))
  simp only [String.utf8EncodeChar] at zero
  split_ifs at zero <;>
    simp (disch := omega) only [List.mem_cons, List.not_mem_nil, or_false, byte_not_zero] at zero

theorem utf8_without_nul (name : List Char) (clean : '\x00' ∉ name) : 0 ∉ utf8 name := by
  intro zero
  obtain ⟨c, member, inside⟩ := List.mem_flatMap.mp zero
  exact clean (nul_of_zero_byte c inside ▸ member)

-- A relative name in its plainest form: one slash between segments, and no segment
-- that is empty or dots for a directory. An empty segment in front would stand for
-- the root.
structure Clean (name : List Char) : Prop where
  noNul : '\x00' ∉ name
  segments : ∀ piece ∈ Text.pieces '/' name, piece ≠ [] ∧ piece ≠ ['.'] ∧ piece ≠ ['.', '.']

variable (name : List Char)

instance : Decidable (Clean name) :=
  decidable_of_iff
    ('\x00' ∉ name ∧ ∀ piece ∈ Text.pieces '/' name, piece ≠ [] ∧ piece ≠ ['.'] ∧ piece ≠ ['.', '.'])
    ⟨fun both => ⟨both.1, both.2⟩, fun clean => ⟨clean.noNul, clean.segments⟩⟩

theorem clean_present (clean : Clean name) : name ≠ [] := by
  rintro rfl
  exact (clean.segments [] (by simp [Text.pieces])).1 rfl

theorem clean_ending (clean : Clean name) : name.getLast? ≠ some '/' := by
  intro slash
  obtain ⟨front, rfl⟩ := List.getLast?_eq_some_iff.mp slash
  exact (clean.segments [] (by simp [Text.pieces_concat])).1 rfl

theorem clean_segments (clean : Clean name) : segments name = Text.pieces '/' name := by
  rw [segments, List.filter_eq_self]
  intro piece member
  obtain ⟨present, apart, _⟩ := clean.segments piece member
  simp [present, apart]

theorem written_flatten (clean : Clean name) : (written name).flatten = name := by
  have present : segments name ≠ [] := by
    rw [clean_segments name clean]
    exact Text.pieces_ne_nil '/' name
  rw [written, if_neg present, if_neg (clean_ending name clean), List.append_nil, clean_segments name clean]
  exact Text.intercalate_pieces '/' name

theorem byte_count_flatten (pieces : List (List Char)) : byteCount pieces.flatten = total (pieces.map byteCount) := by
  induction pieces with
  | nil => rfl
  | cons piece rest ih =>
      rw [List.map_cons, total_cons, ← ih]
      simp [byteCount, utf8]

theorem writable_count (room : Nat) (pieces : List (List Char)) :
    total ((writable room pieces).map byteCount) ≤ room := by
  induction pieces generalizing room with
  | nil => simp [writable, total]
  | cons piece rest ih =>
      rw [writable]
      split
      · next first =>
          have below := ih (room - (utf8 piece).length)
          have fits : (utf8 piece).length ≤ room := by
            simp only [isWritable, Bool.and_eq_true, decide_eq_true_eq] at first
            exact first.1
          rw [List.map_cons, total_cons, byteCount]
          omega
      · simp [total]

theorem writable_of_whole (whole : isWhole name = true) : writable nameSize (written name) = written name := by
  simpa [isWhole] using whole

theorem length_overwrite (field : List UInt8) (full : field.length = nameSize) :
    (overwrite field name).length = nameSize := by
  have count := writable_count nameSize (written name)
  rw [← byte_count_flatten, byteCount] at count
  simp only [overwrite, List.length_take, List.length_append, List.length_cons, List.length_drop, full]
  omega

theorem until_nul_taken (bytes rest : List UInt8) (room : Nat) (fits : bytes.length ≤ room) (clean : 0 ∉ bytes) :
    untilNul ((bytes ++ 0 :: rest).take room) = bytes := by
  have kept : ∀ byte ∈ bytes, (decide (byte ≠ 0)) = true := by
    intro byte member
    have other : byte ≠ 0 := fun zero => clean (zero ▸ member)
    simpa using other
  rw [List.take_append, List.take_of_length_le fits, untilNul, List.takeWhile_append_of_pos kept]
  cases room - bytes.length <;> simp

theorem writable_without_nul (room : Nat) (pieces : List (List Char)) : '\x00' ∉ (writable room pieces).flatten := by
  induction pieces generalizing room with
  | nil => simp [writable]
  | cons piece rest ih =>
      rw [writable]
      split
      · next first =>
          have clear : '\x00' ∉ piece := by simpa using (Bool.and_eq_true_iff.mp first).2
          rw [List.flatten_cons, List.mem_append, not_or]
          exact ⟨clear, ih _⟩
      · simp

theorem until_nul_written (field : List UInt8) (whole : isWhole name = true) :
    untilNul (overwrite field name) = utf8 (written name).flatten := by
  have clear := writable_without_nul nameSize (written name)
  have count := writable_count nameSize (written name)
  rw [writable_of_whole name whole] at clear count
  rw [overwrite, writable_of_whole name whole]
  exact until_nul_taken _ _ nameSize (by rwa [← byteCount, byte_count_flatten]) (utf8_without_nul _ clear)

theorem until_nul_overwrite (field : List UInt8) (clean : Clean name) (whole : isWhole name = true) :
    untilNul (overwrite field name) = utf8 name := by
  rw [until_nul_written name field whole, written_flatten name clean]

-- What a reader takes for the name of an entry.
def Names : EntryName → Prop
  | .short field => field.length = nameSize ∧ untilNul field = utf8 name
  | .long whole field => field.length = nameSize ∧ whole = name

theorem of_name_shape (entry : EntryName) (named : EntryName.ofName name = .ok entry) : name ≠ [] ∧ match entry with
    | .short field => isWhole name = true ∧ field = overwrite emptyField name
    | .long whole field => isWhole name = false ∧ whole = name ∧ field.length = nameSize := by
  have full : emptyField.length = nameSize := by simp [emptyField]
  simp only [EntryName.ofName] at named
  split at named
  · cases named
  · next present =>
      refine ⟨present, ?_⟩
      split at named
      · next fits =>
          cases named
          exact ⟨fits, rfl⟩
      · next large =>
          split at named
          · cases named
          · split at named
            · cases named
              exact ⟨Bool.eq_false_iff.mpr large, rfl, length_overwrite _ _ (length_overwrite _ _ full)⟩
            · cases named

theorem of_name_names (clean : Clean name) : ∃ entry, EntryName.ofName name = .ok entry ∧ Names name entry := by
  obtain ⟨entry, named⟩ := of_name_succeeds name (clean_present name clean) clean.noNul
  obtain ⟨_, shape⟩ := of_name_shape name entry named
  refine ⟨entry, named, ?_⟩
  cases entry with
  | short field =>
      obtain ⟨whole, rfl⟩ := shape
      exact ⟨length_overwrite name emptyField (by simp [emptyField]), until_nul_overwrite name emptyField clean whole⟩
  | long whole field =>
      obtain ⟨_, same, full⟩ := shape
      exact ⟨full, same⟩

end ClientPackager.Archive
