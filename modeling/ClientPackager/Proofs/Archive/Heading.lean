import Mathlib.Algebra.Group.Nat.Defs
import ClientPackager.Proofs.Archive.Reader

set_option autoImplicit false

namespace ClientPackager.Archive

theorem ofDigits_digits (base width n : Nat) :
    ofDigits base (digits base width n) = n % base ^ width := by
  induction width generalizing n with
  | zero => simp [digits, ofDigits, Nat.mod_one]
  | succ width ih =>
    have step : ofDigits base (digits base (width + 1) n) =
        base * ofDigits base (digits base width (n / base)) + n % base := by
      simp [digits, ofDigits]
    rw [step, ih, Nat.pow_succ', Nat.mod_mul, Nat.add_comm]

theorem digit_below (base width n : Nat) (positive : 0 < base) : ∀ digit ∈ digits base width n, digit < base := by
  induction width generalizing n with
  | zero => simp [digits]
  | succ width ih =>
      intro digit member
      rcases List.mem_append.mp member with front | last
      · exact ih (n / base) digit front
      · rw [List.mem_singleton.mp last]
        exact Nat.mod_lt n positive

-- Digits come back from the bytes that they are written as.
theorem digits_of_bytes (base width n : Nat) (write : Nat → UInt8) (read : UInt8 → Nat) (positive : 0 < base)
    (inverse : ∀ digit < base, read (write digit) = digit) :
    ((digits base width n).map write).map read = digits base width n := by
  rw [List.map_map, List.map_eq_map_iff.mpr, List.map_id]
  exact fun digit member => inverse digit (digit_below base width n positive digit member)

theorem octal_byte (width n : Nat) : ∀ byte ∈ octal width n, isOctal byte = true := by
  intro byte member
  obtain ⟨digit, written, rfl⟩ := List.mem_map.mp member
  have figure : ∀ digit < 8, isOctal (UInt8.ofNat (48 + digit)) = true := by decide
  exact figure digit (digit_below 8 width n (by decide) digit written)

-- The bytes that end an octal number, and the byte in front of one in base 256.
theorem octal_apart (byte : UInt8) (figure : isOctal byte = true) : byte ≠ 0 ∧ byte ≠ 0x20 ∧ byte ≠ 0x80 := by
  refine ⟨?_, ?_, ?_⟩ <;> (rintro rfl; exact absurd figure (by decide))

theorem octal_read (width n : Nat) (room : 0 < width) : octal? (octalField (width + 1) n) = some (n % 8 ^ width) := by
  have present : octal width n ≠ [] := by
    rw [← List.length_pos_iff]
    simpa [octal, length_digits] using room
  have unblank : (octalField (width + 1) n).dropWhile (· = 0x20) = octal width n ++ [0] := by
    obtain ⟨first, later, shape⟩ := List.exists_cons_of_ne_nil present
    have figure := octal_apart first (octal_byte width n first (shape ▸ List.mem_cons_self))
    rw [octalField, Nat.add_sub_cancel, shape, List.cons_append, List.dropWhile_cons_of_neg]
    simpa using figure.2.1
  have figures : (octal width n ++ [0]).takeWhile (fun byte => byte ≠ 0 && byte ≠ 0x20) = octal width n := by
    rw [List.takeWhile_append_of_pos]
    · simp
    · intro byte member
      obtain ⟨notNul, notBlank, _⟩ := octal_apart byte (octal_byte width n byte member)
      simp [notNul, notBlank]
  have allOctal : (octal width n).all isOctal = true := List.all_eq_true.mpr (octal_byte width n)
  simp only [octal?, unblank, figures, if_pos (And.intro present allOctal)]
  rw [octal, digits_of_bytes 8 width n _ _ (by decide) (by decide), ofDigits_digits]

theorem number_read_octal (width n : Nat) (room : 0 < width) (fits : n < 8 ^ width) :
    number? (octalField (width + 1) n) = some n := by
  have unmarked : (octalField (width + 1) n).head? ≠ some 0x80 := by
    intro mark
    rcases List.mem_append.mp (List.mem_of_mem_head? mark) with figure | nul
    · exact (octal_apart 0x80 (octal_byte width n 0x80 figure)).2.2 rfl
    · exact absurd nul (by decide)
  rw [number?, if_neg unmarked, octal_read width n room, Nat.mod_eq_of_lt fits]

theorem number_read (width n : Nat) (room : 0 < width) (fits : n < 256 ^ width) :
    number? (numberField (width + 1) n) = some n := by
  have inverse (byte : Nat) (small : byte < 256) : (UInt8.ofNat byte).toNat = byte := by
    rw [UInt8.toNat_ofNat', Nat.mod_eq_of_lt small]
  rw [numberField]
  split
  · next small => exact number_read_octal width n room small
  · rw [number?, List.head?_cons, if_pos rfl, List.tail_cons, bigEndian, Nat.add_sub_cancel,
      digits_of_bytes 256 width n _ _ (by decide) inverse, ofDigits_digits, Nat.mod_eq_of_lt fits]

theorem cut_flatten (fields : List (List UInt8)) : cut (fields.map List.length) fields.flatten = fields := by
  induction fields with
  | nil => rfl
  | cons field rest ih => simp [cut, ih]

theorem length_octal (width n : Nat) : (octalField (width + 1) n).length = width + 1 := by
  simp [octalField, octal, length_digits]

theorem length_number (width n : Nat) : (numberField (width + 1) n).length = width + 1 := by
  rw [numberField]
  split
  · exact length_octal width n
  · simp [bigEndian, length_digits]

theorem byte_sum_le (bytes : List UInt8) : total (bytes.map UInt8.toNat) ≤ 255 * bytes.length := by
  induction bytes with
  | nil => simp [total]
  | cons byte rest ih =>
      have small := byte.toNat_lt
      rw [List.map_cons, total_cons, List.length_cons]
      omega

-- Numbers and names that their fields have room for.
structure Legible (header : Header) : Prop where
  name : header.name.length ≤ nameSize
  mode : header.mode.toNat < 8 ^ 7
  size : header.size < 256 ^ 11

namespace Header

variable (header : Header)

def fields : List (List UInt8) :=
  [padded nameSize header.name, octalField 8 header.mode.toNat, octalField 8 0, octalField 8 0,
    numberField 12 header.size, numberField 12 header.mtime.toNat, octalField 8 header.checksum,
    [header.kind.code], List.replicate 100 0, gnuFormat, List.replicate 247 0]

theorem bytes_of_fields : header.bytes = header.fields.flatten := by
  simp only [bytes, leading, trailing, fields, gnuFormat, List.flatten_cons, List.flatten_nil, List.append_assoc,
    List.append_nil]

theorem length_padded (room : header.name.length ≤ nameSize) : (padded nameSize header.name).length = 100 := by
  simp only [nameSize] at room
  simp [padded, List.rightpad, nameSize]
  omega

theorem fields_widths (room : header.name.length ≤ nameSize) : header.fields.map List.length = layout := by
  simp [-List.reduceReplicate, fields, layout, length_padded header room, length_octal, length_number, gnuFormat]

theorem length_leading (room : header.name.length ≤ nameSize) : header.leading.length = 148 := by
  simp [leading, length_padded header room, length_octal, length_number]

theorem length_trailing : header.trailing.length = 356 := by simp [trailing, -List.reduceReplicate]

theorem length_bytes (room : header.name.length ≤ nameSize) : header.bytes.length = blockSize := by
  simp [bytes, length_leading header room, length_trailing, length_octal, blockSize]

theorem sum_of_bytes (room : header.name.length ≤ nameSize) : sumOf header.bytes = header.checksum := by
  have front : header.bytes.take 148 = header.leading := by
    rw [bytes, List.append_assoc, List.take_left' (length_leading header room)]
  have back : header.bytes.drop 156 = header.trailing := by
    rw [bytes, List.drop_left']
    simp [length_leading header room, length_octal]
  rw [sumOf, front, back, checksum]

theorem checksum_small (room : header.name.length ≤ nameSize) : header.checksum < 8 ^ 7 := by
  have bound := byte_sum_le (header.leading ++ List.replicate 8 0x20 ++ header.trailing)
  simp only [List.length_append, length_leading header room, length_trailing, List.length_replicate] at bound
  rw [checksum]
  omega

def heading : Heading :=
  ⟨untilNul (padded nameSize header.name), header.mode.toNat, header.size, header.mtime.toNat, header.kind⟩

theorem kind_read (kind : EntryKind) : kind? kind.code = some kind := by
  cases kind <;> decide

theorem heading_read (legible : Legible header) : heading? header.bytes = some header.heading := by
  have shape : cut layout header.bytes = header.fields := by
    rw [← fields_widths header legible.name, bytes_of_fields, cut_flatten]
  have mtime : header.mtime.toNat < 256 ^ 11 := Nat.lt_of_lt_of_le header.mtime.toNat_lt (by decide)
  have sum : octal? (octalField 8 header.checksum) = some (sumOf header.bytes) := by
    rw [octal_read 7 _ (by decide), Nat.mod_eq_of_lt (checksum_small header legible.name), sum_of_bytes header legible.name]
  rw [heading?, shape]
  simp only [fields, number_read_octal 7 _ (by decide) legible.mode, number_read 11 _ (by decide) legible.size,
    number_read 11 _ (by decide) mtime, kind_read, sum, Option.bind_eq_bind, Option.bind_some, and_self, if_true]
  rfl

end Header

end ClientPackager.Archive
