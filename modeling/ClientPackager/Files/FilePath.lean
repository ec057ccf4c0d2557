import ClientPackager.Files.Fault
import ClientPackager.Text.Split

set_option autoImplicit false

namespace ClientPackager

namespace FilePath

def defect? (piece : List Char) : Option SegmentDefect :=
  if piece = ['.', '.'] then some .parentReference
  else if piece = [] then some .empty
  else none

def isSegment (piece : List Char) : Bool := (defect? piece).isNone && !piece.contains '/'

end FilePath

-- No segment is empty or two dots or holds a slash, so a path cannot lead out of the
-- tree.
structure FilePath where
  segments : List (List Char)
  valid : segments.all FilePath.isSegment = true
deriving DecidableEq, Repr

namespace FilePath

theorem not_mem_of_mem_pieces {sep : Char} {cs piece : List Char}
    (mem : piece ∈ Text.pieces sep cs) : sep ∉ piece := by
  induction cs generalizing piece with
  | nil => simp_all [Text.pieces]
  | cons c rest ih =>
    unfold Text.pieces at mem
    split at mem
    · rcases List.mem_cons.1 mem with rfl | later
      · simp
      · exact ih later
    · next other =>
      split at mem
      · simp_all [Ne.symm]
      · next first later eq =>
        rcases List.mem_cons.1 mem with rfl | found
        · have inFirst : sep ∉ first := ih (eq ▸ List.mem_cons_self)
          simp only [List.mem_cons, not_or]
          exact ⟨fun same => other same.symm, inFirst⟩
        · exact ih (eq ▸ List.mem_cons_of_mem _ found)

theorem all_isSegment {cs : List Char} {drop : Nat}
    (clean : ((Text.pieces '/' cs).drop drop).findSome? defect? = none) :
    ((Text.pieces '/' cs).drop drop).all isSegment = true := by
  rw [List.findSome?_eq_none_iff] at clean
  rw [List.all_eq_true]
  intro piece mem
  have apart := not_mem_of_mem_pieces (List.mem_of_mem_drop mem)
  simp [isSegment, clean piece mem, apart]

-- Slashes at the end do not count; the first piece from the left that is no segment is
-- the one complained about.
def parse (raw : String) : Except TreeFault FilePath :=
  if Text.hasLeading "/" raw then
    let cs := (Text.dropTrailing '/' raw).toList
    match eq : ((Text.pieces '/' cs).drop 1).findSome? defect? with
    | some defect => .error (.invalidSegment raw defect)
    | none => .ok ⟨(Text.pieces '/' cs).drop 1, all_isSegment eq⟩
  else .error (.notAbsolute raw)

def root : FilePath := ⟨[], rfl⟩

def written (segments : List (List Char)) : List Char := segments.flatMap ('/' :: ·)

def text (path : FilePath) : String :=
  match path.segments with
  | [] => "/"
  | segments => String.ofList (written segments)

def relative (path : FilePath) : String := String.ofList (['/'].intercalate path.segments)

def parent? (path : FilePath) : Option FilePath :=
  if path.segments = [] then none
  else some ⟨path.segments.dropLast, by
    rw [List.all_eq_true]
    exact fun piece mem => List.all_eq_true.1 path.valid piece ((List.dropLast_sublist _).mem mem)⟩

def isUnder (path dir : FilePath) : Bool :=
  dir.segments.isPrefixOf path.segments && dir.segments.length < path.segments.length

end FilePath
end ClientPackager
