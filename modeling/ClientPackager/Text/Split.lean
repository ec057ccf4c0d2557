set_option autoImplicit false

namespace ClientPackager.Text

def pieces (sep : Char) : List Char → List (List Char)
  | [] => [[]]
  | c :: rest =>
    if c = sep then [] :: pieces sep rest
    else match pieces sep rest with
      | [] => [[c]]
      | piece :: later => (c :: piece) :: later

theorem pieces_ne_nil (sep : Char) (cs : List Char) : pieces sep cs ≠ [] := by
  cases cs with
  | nil => simp [pieces]
  | cons c rest =>
    unfold pieces
    split
    · simp
    · split <;> simp

theorem intercalate_pieces (sep : Char) (cs : List Char) :
    [sep].intercalate (pieces sep cs) = cs := by
  induction cs with
  | nil => rfl
  | cons c rest ih =>
    unfold pieces
    split
    · next h =>
      subst h
      obtain ⟨piece, later, eq⟩ := List.exists_cons_of_ne_nil (pieces_ne_nil c rest)
      rw [eq] at ih ⊢
      simp [← ih, List.intercalate, List.intersperse]
    · split
      · next eq => exact absurd eq (pieces_ne_nil sep rest)
      · next piece later eq =>
        rw [eq] at ih
        cases later <;> simp_all [List.intercalate, List.intersperse]

def splitOn (sep : Char) (s : String) : List String := (pieces sep s.toList).map String.ofList

def afterLastBy (stop : Char → Bool) (s : String) : String :=
  String.ofList (s.toList.reverse.takeWhile fun c => !stop c).reverse

def afterLast (sep : Char) (s : String) : String := afterLastBy (· == sep) s

def dropLeading (c : Char) (s : String) : String :=
  match s.toList with
  | head :: rest => if head = c then String.ofList rest else s
  | [] => s

def dropTrailing (c : Char) (s : String) : String :=
  String.ofList (s.toList.reverse.dropWhile (· == c)).reverse

def hasLeading (start s : String) : Bool := start.toList.isPrefixOf s.toList

def hasTrailing (ending s : String) : Bool := ending.toList.isSuffixOf s.toList

-- A line feed, or carriage return and line feed, ends a line, and the last line need
-- not be ended.
def lines (s : String) : List String :=
  let all := pieces '\n' s.toList
  let ended := all.dropLast.map fun line =>
    if line.getLast? = some '\r' then line.dropLast else line
  let tail := all.getLast?.toList.filter (· ≠ [])
  (ended ++ tail).map String.ofList

end ClientPackager.Text
