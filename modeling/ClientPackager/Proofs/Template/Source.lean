import ClientPackager.Proofs.Template.Tag
import ClientPackager.Template.Source

set_option autoImplicit false

namespace ClientPackager.Template

def Piece.segment : Piece → Segment
  | .text written => .text written.toList
  | .value name => .value ([name].filter (· ≠ "this"))
  | .json name => .call "json" [.field ([name].filter (· ≠ "this"))]
  | .opening helper name => .opening helper [.field ([name].filter (· ≠ "this"))]
  | .closing helper => .closing helper

-- Text without escapes and without a tag in it or across its end.
def plain : List Char → Bool
  | [] => true
  | c :: rest => c != '\\' && (c != '\x7b' || rest.head?.any (· != '\x7b')) && plain rest

structure Passage (text : String) : Prop where
  present : text ≠ ""
  plain : plain text.toList = true

instance (text : String) : Decidable (Passage text) :=
  decidable_of_iff (text ≠ "" ∧ plain text.toList = true)
    ⟨fun ⟨present, solid⟩ => ⟨present, solid⟩, fun ⟨present, solid⟩ => ⟨present, solid⟩⟩

theorem passage (first : Char) (text : List Char) (solid : plain (first :: text) = true) :
    Passage (String.ofList (first :: text)) :=
  ⟨by simp, by rwa [String.toList_ofList]⟩

theorem plain_append (front behind : List Char) (first : plain front = true) (later : plain behind = true) :
    plain (front ++ behind) = true := by
  induction front with
  | nil => exact later
  | cons c front ih =>
      simp only [plain, Bool.and_eq_true, List.cons_append] at first ⊢
      refine ⟨⟨first.1.1, ?_⟩, ih first.2⟩
      cases front <;> simp_all

theorem passage_append (front behind : String) (first : Passage front) (later : Passage behind) :
    Passage (front ++ behind) := by
  constructor
  · simp [first.present]
  · rw [String.toList_append]
    exact plain_append _ _ first.plain later.plain

-- A brace at the end of a line is plain only with the line feed behind it.
def PlainLine (line : String) : Prop := plain (line.toList ++ ['\n']) = true

theorem plain_line (line : List Char) (solid : plain (line ++ ['\n']) = true) : PlainLine (String.ofList line) := by
  rwa [PlainLine, String.toList_ofList]

theorem plain_lines (all : List String) (each : ∀ line ∈ all, PlainLine line) : plain (lines all).toList = true := by
  induction all with
  | nil => rfl
  | cons line rest ih =>
      obtain ⟨first, each⟩ := List.forall_mem_cons.mp each
      simpa [lines] using plain_append _ _ first (ih each)

theorem passage_lines (first : String) (rest : List String) (each : ∀ line ∈ first :: rest, PlainLine line) :
    Passage (lines (first :: rest)) :=
  ⟨by simp [lines], plain_lines (first :: rest) each⟩

def Piece.Legible : Piece → Prop
  | .text written => Passage written
  | .value name => Word name.toList ∧ helpers.contains name = false
  | .json name => Word name.toList
  | .opening helper name => Word helper.toList ∧ Word name.toList
  | .closing helper => Word helper.toList

def Piece.isText : Piece → Bool
  | .text _ => true
  | _ => false

-- Texts next to each other would be read as one.
def apart : List Piece → Bool
  | [] => true
  | piece :: rest => !(piece.isText && rest.head?.any Piece.isText) && apart rest

-- The reader has steps enough for what is in front of it.
def Reads (cs : List Char) (segments : List Segment) : Prop :=
  ∀ fuel, cs.length < fuel → readSegments fuel cs = some segments

theorem reads_nil : Reads [] [] := by
  intro fuel enough
  obtain ⟨less, rfl⟩ := Nat.exists_eq_add_of_lt enough
  simp [readSegments]

theorem no_escape (c : Char) (rest : List Char) (solid : c ≠ '\\') : escaped? (c :: rest) = none := by
  simp [escaped?, solid]

theorem reads_plain (text rest : List Char) (segments : List Segment) (clean : plain text = true)
    (later : Reads rest segments) : Reads (text ++ rest) (consText text segments) := by
  induction text with
  | nil => exact later
  | cons c text ih =>
      simp only [plain, Bool.and_eq_true, Bool.or_eq_true, bne_iff_ne, ne_eq] at clean
      obtain ⟨⟨noEscape, noTag⟩, clean⟩ := clean
      intro fuel enough
      obtain ⟨fuel, rfl⟩ : ∃ less, fuel = less + 1 := Nat.exists_eq_add_of_le' (by omega)
      have inner := ih clean fuel (by simp at enough ⊢; omega)
      have noOpening (behind : List Char) (first : c = '\x7b') : text ++ rest ≠ '\x7b' :: behind := by
        intro same
        cases text with
        | nil => simp [first] at noTag
        | cons d text => simp_all
      rw [List.cons_append, readSegments, no_escape c (text ++ rest) noEscape]
      · simp only [inner]
        rfl
      · exact noOpening

theorem reads_tag (words rest : List Char) (segment : Segment) (segments : List Segment)
    (tag : readTag (words ++ close rest) = some (segment, rest)) (later : Reads rest segments) :
    Reads ('\x7b' :: '\x7b' :: (words ++ close rest)) (segment :: segments) := by
  intro fuel enough
  obtain ⟨fuel, rfl⟩ : ∃ less, fuel = less + 1 := Nat.exists_eq_add_of_le' (by omega)
  have inner := later fuel (by simp [close] at enough ⊢; omega)
  have noEscape : escaped? ('\x7b' :: '\x7b' :: (words ++ close rest)) = none := rfl
  simp only [readSegments, noEscape, tag, Option.bind_eq_bind, Option.bind_some, inner]
  rfl

theorem tag_read (piece : Piece) (legible : piece.Legible) (tag : piece.isText = false) (rest : List Char) :
    readTag (piece.words.toList ++ close rest) = some (piece.segment, rest) := by
  cases piece with
  | text written => cases tag
  | value name =>
      have free : helpers.contains (String.ofList name.toList) = false := by
        rw [String.ofList_toList]
        exact legible.2
      simpa [Piece.words, Piece.segment] using value_tag legible.1 free rest
  | json name =>
      have json : Word "json".toList := ⟨by decide, by decide, by decide⟩
      simpa [Piece.words, Piece.segment] using call_tag json legible rest
  | opening helper name => simpa [Piece.words, Piece.segment] using opening_tag legible.1 legible.2 rest
  | closing helper => simpa [Piece.words, Piece.segment] using closing_tag legible rest

theorem cons_text (text : List Char) (segments : List Segment) (present : text ≠ [])
    (apart : ∀ other later, segments ≠ .text other :: later) : consText text segments = .text text :: segments := by
  induction text with
  | nil => exact absurd rfl present
  | cons c rest ih =>
      cases rest with
      | nil =>
          rw [consText, List.foldr_cons, List.foldr_nil, consChar]
          exact apart
      | cons next later =>
          have behind := ih (List.cons_ne_nil next later)
          rw [consText] at behind ⊢
          rw [List.foldr_cons, behind, consChar]

theorem source_cons (piece : Piece) (rest : List Piece) :
    (sourceOf (piece :: rest)).toList = piece.source.toList ++ (sourceOf rest).toList := by
  simp [sourceOf]

theorem reads_pieces (pieces : List Piece) (legible : ∀ piece ∈ pieces, piece.Legible)
    (separate : apart pieces = true) : Reads (sourceOf pieces).toList (pieces.map Piece.segment) := by
  induction pieces with
  | nil => exact reads_nil
  | cons piece rest ih =>
      obtain ⟨first, legible⟩ := List.forall_mem_cons.mp legible
      rw [apart, Bool.and_eq_true] at separate
      have later := ih legible separate.2
      rw [source_cons, List.map_cons]
      cases piece with
      | text written =>
          have front := reads_plain written.toList _ _ first.plain later
          rw [cons_text] at front
          · exact front
          · simpa using first.present
          · intro other behind same
            cases rest with
            | nil => cases same
            | cons next rest => cases next <;> simp_all [Piece.isText, Piece.segment]
      | value | json | opening | closing =>
          have behind := reads_tag _ _ _ _ (tag_read _ first rfl (sourceOf rest).toList) later
          simpa [Piece.source, close] using behind

theorem parse_source (pieces : List Piece) (legible : ∀ piece ∈ pieces, piece.Legible)
    (separate : apart pieces = true) :
    parse (sourceOf pieces) = nest (dropTagLines true false none (pieces.map Piece.segment)) [] [] := by
  have segments := reads_pieces pieces legible separate ((sourceOf pieces).length + 1)
    (by rw [String.length_toList]; omega)
  rw [parse, segments]
  rfl

end ClientPackager.Template
