import ClientPackager.Proofs.Archive.Heading
import ClientPackager.Proofs.Archive.Listing
import ClientPackager.Proofs.Outcome

set_option autoImplicit false

namespace ClientPackager.Archive

theorem length_blocks (data : List UInt8) : (blocks data).length = wholeBlocks data.length := by
  simp only [blocks, wholeBlocks, blockSize, List.length_append, List.length_replicate]
  omega

section Entry

variable (entry : Entry) (legible : Legible entry.header) (counted : entry.header.size = entry.data.length)

theorem entry_apart (rest : List UInt8) : entry.bytes ++ rest ≠ ending := by
  intro same
  have member : entry.header.kind.code ∈ ending := by
    rw [← same]
    simp [Entry.bytes, Header.bytes, Header.trailing, -List.reduceReplicate]
  rw [ending, List.mem_replicate] at member
  cases kind : entry.header.kind <;> simp [kind, EntryKind.code] at member

include legible counted

theorem record_read (rest : List UInt8) :
    record? (entry.bytes ++ rest) = some (entry.header.heading, entry.data, rest) := by
  have block := Header.length_bytes entry.header legible.name
  have shape : entry.bytes ++ rest = entry.header.bytes ++ (blocks entry.data ++ rest) := by
    rw [Entry.bytes, List.append_assoc]
  have size : entry.header.heading.size = entry.data.length := counted
  have whole : ¬ (entry.bytes ++ rest).length < blockSize + wholeBlocks entry.data.length := by
    rw [shape, List.length_append, List.length_append, length_blocks, block]
    omega
  have data : (blocks entry.data ++ rest).take entry.data.length = entry.data := by
    rw [blocks, List.append_assoc, List.take_left]
  have behind : (blocks entry.data ++ rest).drop (wholeBlocks entry.data.length) = rest :=
    List.drop_left' (length_blocks entry.data)
  rw [record?, shape, List.take_left' block, List.drop_left' block, Header.heading_read entry.header legible, ← shape]
  simp only [Option.bind_eq_bind, Option.bind_some, size, if_neg whole, data, behind]

-- One entry is read, whatever stands behind it.
theorem members_read (given : Option (List UInt8)) (rest : List UInt8) :
    members? given (entry.bytes ++ rest) =
      match entry.header.kind with
      | .longName => members? (some (untilNul entry.data)) rest
      | .regular => (members? none rest).map (⟨given.getD entry.header.heading.name, entry.data,
          entry.header.mode.toNat, entry.header.mtime.toNat⟩ :: ·) := by
  have read := record_read entry legible counted rest
  rw [members?, if_neg (entry_apart entry rest)]
  split
  · next missing =>
      rw [read] at missing
      cases missing
  · next heading data behind found =>
      rw [read] at found
      cases found
      have kept : entry.header.heading.kind = entry.header.kind := rfl
      rw [kept]
      cases kind : entry.header.kind with
      | longName => rfl
      | regular => cases members? none rest <;> rfl

end Entry

section File

variable (options : ArchiveOptions)

def fileEntry (field : List UInt8) (content : String) : Entry :=
  ⟨⟨field, options.mode, (utf8 content.toList).length, options.mtime, .regular⟩, utf8 content.toList⟩

def memberOf (file : PackageFile) : Member :=
  ⟨utf8 file.path.toList, utf8 file.content.toList, options.mode.toNat, options.mtime.toNat⟩

-- The bytes of a text in memory are counted by a word of 64 bits. A field for a
-- number has room for more than that.
def Held (file : PackageFile) : Prop := file.path.utf8ByteSize < 2 ^ 64 ∧ file.content.utf8ByteSize < 2 ^ 64

theorem utf8_size (text : String) : (utf8 text.toList).length = text.utf8ByteSize := by
  rw [← String.ofList_toList (s := text), String.toList_ofList]
  simp [utf8, String.utf8ByteSize, String.ofList, List.utf8Encode]

theorem file_entry_read (field : List UInt8) (content : String) (full : field.length = nameSize)
    (mode : options.mode.toNat < 2 ^ 21) (held : content.utf8ByteSize < 2 ^ 64) (given : Option (List UInt8))
    (rest : List UInt8) :
    members? given ((fileEntry options field content).bytes ++ rest) =
      (members? none rest).map (⟨given.getD (untilNul field), utf8 content.toList, options.mode.toNat,
        options.mtime.toNat⟩ :: ·) := by
  have legible : Legible (fileEntry options field content).header := by
    refine ⟨Nat.le_of_eq full, mode, ?_⟩
    have size := utf8_size content
    simp only [fileEntry]
    omega
  have name : (fileEntry options field content).header.heading.name = untilNul field := by
    simp [Header.heading, fileEntry, Header.padded, List.rightpad, full]
  rw [members_read (fileEntry options field content) legible rfl, name]
  rfl

theorem name_entry_read (name : String) (clean : '\x00' ∉ name.toList) (held : name.utf8ByteSize < 2 ^ 64)
    (given : Option (List UInt8)) (rest : List UInt8) :
    members? given ((nameEntry name.toList).bytes ++ rest) = members? (some (utf8 name.toList)) rest := by
  have legible : Legible (nameEntry name.toList).header := by
    have link : (utf8 longLink).length ≤ nameSize := by decide
    have permissions : (0o644 : UInt32).toNat < 8 ^ 7 := by decide
    refine ⟨link, permissions, ?_⟩
    have size := utf8_size name
    simp only [nameEntry, List.length_append, List.length_singleton]
    omega
  have ended : untilNul (nameEntry name.toList).data = utf8 name.toList := by
    have taken := until_nul_taken (utf8 name.toList) [] _ (Nat.le_succ _) (utf8_without_nul name.toList clean)
    rwa [List.take_of_length_le (by simp)] at taken
  rw [members_read (nameEntry name.toList) legible rfl, ended]
  rfl

theorem file_read (file : PackageFile) (mode : options.mode.toNat < 2 ^ 21) (clean : Clean file.path.toList)
    (held : Held file) :
    ∃ entries, entriesOf options file.path file.content = .ok entries ∧
      ∀ rest, members? none (entries.flatMap Entry.bytes ++ rest) =
        (members? none rest).map (memberOf options file :: ·) := by
  obtain ⟨entry, named, names⟩ := of_name_names file.path.toList clean
  cases entry with
  | short field =>
      obtain ⟨full, name⟩ := names
      refine ⟨[fileEntry options field file.content], by simp only [entriesOf, named]; rfl, fun rest => ?_⟩
      rw [List.flatMap_singleton, file_entry_read options field file.content full mode held.2, Option.getD_none, name]
      rfl
  | long whole field =>
      obtain ⟨full, rfl⟩ := names
      refine ⟨[nameEntry file.path.toList, fileEntry options field file.content],
        by simp only [entriesOf, named]; rfl, fun rest => ?_⟩
      rw [List.flatMap_cons, List.flatMap_singleton, List.append_assoc, name_entry_read file.path clean.noNul held.1,
        file_entry_read options field file.content full mode held.2, Option.getD_some]
      rfl

theorem files_read (files : List PackageFile) (mode : options.mode.toNat < 2 ^ 21)
    (clean : ∀ file ∈ files, Clean file.path.toList) (held : ∀ file ∈ files, Held file) :
    ∃ entries, files.mapM (fun file => entriesOf options file.path file.content) = .ok entries ∧
      members? none (entries.flatten.flatMap Entry.bytes ++ ending) = some (files.map (memberOf options)) := by
  induction files with
  | nil => exact ⟨[], rfl, by simp [members?]⟩
  | cons file rest ih =>
      obtain ⟨first, packed, read⟩ := file_read options file mode (clean file List.mem_cons_self)
        (held file List.mem_cons_self)
      obtain ⟨others, later, below⟩ := ih (fun other member => clean other (List.mem_cons_of_mem file member))
        (fun other member => held other (List.mem_cons_of_mem file member))
      refine ⟨first :: others, by simp only [List.mapM_cons, packed, later]; rfl, ?_⟩
      rw [List.flatten_cons, List.flatMap_append, List.append_assoc, read, below]
      rfl

end File

theorem files_read_back (options : ArchiveOptions) (bundle : Bundle) (mode : options.mode.toNat < 2 ^ 21)
    (distinct : (bundle.files.map PackageFile.path).Nodup) (clean : ∀ file ∈ bundle.files, Clean file.path.toList)
    (held : ∀ file ∈ bundle.files, Held file) :
    ∃ archive, ofBundle options bundle = .ok archive ∧
      members? none archive.bytes = some (bundle.files.map (memberOf options)) := by
  obtain ⟨tree, built, same⟩ := build_lists bundle distinct clean
  obtain ⟨entries, packed, read⟩ := files_read options bundle.files mode clean held
  have mapped :
      tree.files.items.mapM (fun file => entriesOf options file.path.relative file.content) = .ok entries := by
    rw [← packed, ← same, listed, List.mapM_map]
    rfl
  exact ⟨⟨entries.flatten, options.level⟩,
    (bind_eq_ok _ _ _).mpr ⟨tree, built, (bind_eq_ok _ _ _).mpr ⟨entries, mapped, rfl⟩⟩, read⟩

-- The name takes more bytes than a header has for it, and the time more digits.
def atticName : String := String.ofList (List.replicate 60 'é') ++ "/box.js"

def attic : Bundle := ⟨[⟨atticName, "grüezi"⟩, ⟨"index.js", ""⟩]⟩

def atticOptions : ArchiveOptions := ⟨1099511627776, 0o755, Fin.last 9⟩

theorem attic_read_back : nameSize < byteCount atticName.toList ∧ ∃ archive,
    ofBundle atticOptions attic = .ok archive ∧
      members? none archive.bytes = some (attic.files.map (memberOf atticOptions)) := by
  have held : ∀ file ∈ attic.files, Held file := by
    intro file member
    rw [Held, ← utf8_size, ← utf8_size]
    revert file
    decide +kernel
  have long : nameSize < byteCount atticName.toList := by decide +kernel
  exact ⟨long, files_read_back atticOptions attic (by decide) (by decide +kernel) (by decide +kernel) held⟩

end ClientPackager.Archive
