import ClientPackager.Proofs.Files.PathText
import ClientPackager.Proofs.Keyed.Insertions

set_option autoImplicit false

namespace ClientPackager.FileTree

-- A call gives a text for a path and a content.
abbrev Call := String × String

-- A tree stays as it is if a path is refused.
def keep (tree : FileTree) (call : Call) : FileTree :=
  match tree.add call.1 call.2 with
  | .ok grown => grown
  | .error _ => tree

def afterCalls (calls : List Call) : FileTree := calls.foldl keep empty

def file? (call : Call) : Option TreeFile :=
  match FilePath.parse call.1 with
  | .ok path => some ⟨path, call.2⟩
  | .error _ => none

structure OrderedMap where
  paths : List FilePath
  content? : FilePath → Option String

-- What calls come to, told without a tree: the paths that they name, each where
-- it is named first, and for each path the content that came last.
def OrderedMap.ofCalls (calls : List Call) : OrderedMap where
  paths := ((calls.filterMap file?).map TreeFile.path).eraseDups
  content? path := (((calls.filterMap file?).filter fun file => file.path = path).getLast?).map TreeFile.content

-- A tree shows what a map holds, whatever it is asked.
structure Shows (tree : FileTree) (map : OrderedMap) : Prop where
  listed : tree.paths = map.paths
  items : tree.files.items = map.paths.filterMap fun path => (map.content? path).map (⟨path, ·⟩)
  read : ∀ raw, tree.read raw =
    match FilePath.parse raw with
    | .error fault => .error fault
    | .ok path => (map.content? path).elim (.error (.fileNotFound path.text)) .ok
  fileExists : ∀ raw, tree.fileExists raw = true ↔
    ∃ path, FilePath.parse raw = .ok path ∧ (map.content? path).isSome = true
  slashes : ∀ raw slashes, Text.hasLeading "/" raw = true → (∀ c ∈ slashes.toList, c = '/') →
    (tree.read (raw ++ slashes)).toOption = (tree.read raw).toOption ∧
      tree.fileExists (raw ++ slashes) = tree.fileExists raw
  totalBytes : tree.totalBytes =
    total (map.paths.filterMap fun path => (map.content? path).map String.utf8ByteSize)
  notADirectory : ∀ raw dir, FilePath.parse raw = .ok dir →
    (tree.children raw = .error (.notADirectory dir.text) ↔ (map.content? dir).isSome = true)
  children : ∀ raw dir, FilePath.parse raw = .ok dir → map.content? dir = none →
    tree.children raw = .ok (map.paths.filter fun path => path.parent? = some dir)

section Adding

variable (tree : FileTree) (raw content : String)

theorem add_refused (fault : TreeFault) (refused : FilePath.parse raw = .error fault) :
    tree.add raw content = .error fault := by
  simp only [add, refused]
  rfl

theorem add_accepted (path : FilePath) (parsed : FilePath.parse raw = .ok path) :
    tree.add raw content = .ok (tree.insert path content) := by
  simp only [add, parsed]
  rfl

theorem contains_iff_listed (path : FilePath) : tree.contains path = true ↔ path ∈ tree.paths := by
  rw [contains, Keyed.find?, List.find?_isSome, paths, List.mem_map]
  simp

theorem children_of (dir : FilePath) (parsed : FilePath.parse raw = .ok dir) : tree.children raw =
    if dir ∈ tree.paths then .error (.notADirectory dir.text)
    else .ok (tree.paths.filter fun path => path.parent? = some dir) := by
  rw [children, parsed]
  by_cases listed : dir ∈ tree.paths
  · have held := (contains_iff_listed tree dir).mpr listed
    simp only [bind, Except.bind, held, if_pos listed, if_true]
    rfl
  · have free : tree.contains dir = false :=
      Bool.eq_false_iff.mpr fun held => listed ((contains_iff_listed tree dir).mp held)
    simp only [bind, Except.bind, free, if_neg listed, Bool.false_eq_true, if_false]
    rfl

-- Two texts for one path are one query.
theorem same_answers (other : String) (same : ∀ path, FilePath.parse raw = .ok path ↔ FilePath.parse other = .ok path) :
    (tree.read raw).toOption = (tree.read other).toOption ∧ tree.fileExists raw = tree.fileExists other := by
  cases parsed : FilePath.parse raw with
  | ok path =>
      have also := (same path).mp parsed
      exact ⟨by simp only [read, parsed, also], by simp only [fileExists, parsed, also]⟩
  | error fault =>
      cases again : FilePath.parse other with
      | ok path =>
          rw [(same path).mpr again] at parsed
          cases parsed
      | error later => exact ⟨by simp only [read, parsed, again]; rfl, by simp only [fileExists, parsed, again]⟩

end Adding

section Calls

variable (calls : List Call)

theorem after_refused (raw content : String) (fault : TreeFault) (refused : FilePath.parse raw = .error fault) :
    afterCalls (calls ++ [(raw, content)]) = afterCalls calls := by
  rw [afterCalls, List.foldl_concat, keep, add_refused _ raw content fault refused]
  rfl

theorem after_calls_files : (afterCalls calls).files = Keyed.empty.insertAll (calls.filterMap file?) := by
  induction calls using List.reverseRecOn with
  | nil => rfl
  | append_singleton calls call ih =>
      rw [afterCalls, List.foldl_concat, ← afterCalls, keep, List.filterMap_append]
      cases parsed : FilePath.parse call.1 with
      | error fault =>
          rw [add_refused _ call.1 call.2 fault parsed, ih]
          simp [file?, parsed]
      | ok path =>
          rw [add_accepted _ call.1 call.2 path parsed]
          simp only [file?, parsed, List.filterMap_cons, List.filterMap_nil]
          rw [Keyed.insert_all_snoc, ← ih]
          rfl

theorem after_calls_paths : (afterCalls calls).paths = (OrderedMap.ofCalls calls).paths := by
  rw [paths, after_calls_files]
  exact Keyed.keys_all _

theorem after_calls_found (path : FilePath) :
    ((afterCalls calls).files.find? path).map TreeFile.content = (OrderedMap.ofCalls calls).content? path := by
  rw [after_calls_files, Keyed.find_all]
  exact congrArg _ Option.or_none

theorem after_calls_contains (path : FilePath) :
    (afterCalls calls).contains path = ((OrderedMap.ofCalls calls).content? path).isSome := by
  rw [contains, ← after_calls_found, Option.isSome_map]

theorem after_calls_items : (afterCalls calls).files.items = (OrderedMap.ofCalls calls).paths.filterMap fun path =>
    ((OrderedMap.ofCalls calls).content? path).map (⟨path, ·⟩) := by
  rw [Keyed.items_by_keys, ← after_calls_paths]
  apply List.filterMap_congr
  intro path _
  rw [← after_calls_found]
  cases found : (afterCalls calls).files.find? path with
  | none => rfl
  | some file =>
      have keyed : file.path = path := by simpa using List.find?_some found
      rw [← keyed]
      rfl

theorem after_calls_show : Shows (afterCalls calls) (OrderedMap.ofCalls calls) where
  listed := after_calls_paths calls
  items := after_calls_items calls
  read raw := by
    rw [read]
    cases FilePath.parse raw with
    | error fault => rfl
    | ok path =>
        simp only [bind, Except.bind, ← after_calls_found]
        cases (afterCalls calls).files.find? path <;> rfl
  fileExists raw := by
    rw [fileExists]
    cases FilePath.parse raw with
    | error fault => simp
    | ok path => simp [after_calls_contains]
  slashes raw slashes leading all := same_answers _ _ raw (FilePath.parse_slashes raw slashes leading all)
  totalBytes := by
    rw [totalBytes, after_calls_items, List.map_filterMap]
    congr 1
    apply List.filterMap_congr
    intro path _
    rw [Option.map_map]
    rfl
  notADirectory raw dir parsed := by
    rw [children_of _ raw dir parsed, ← after_calls_contains, contains_iff_listed]
    split <;> simp_all
  children raw dir parsed free := by
    have unlisted : dir ∉ (afterCalls calls).paths := by
      rw [← contains_iff_listed, after_calls_contains, free]
      simp
    rw [children_of _ raw dir parsed, if_neg unlisted, after_calls_paths]

end Calls

-- After any calls a tree is the map from paths to the content that was last added
-- for each, in the order in which the paths were first added.
theorem tree_is_ordered_map (calls : List Call) :
    Shows (afterCalls calls) (OrderedMap.ofCalls calls) ∧
    (∀ raw content fault, FilePath.parse raw = .error fault →
      (afterCalls calls).add raw content = .error fault ∧
        afterCalls (calls ++ [(raw, content)]) = afterCalls calls) ∧
    (∀ raw path, FilePath.parse raw = .ok path →
      path.text = if Text.dropTrailing '/' raw = "" then "/" else Text.dropTrailing '/' raw) ∧
    ∀ path dir : FilePath, path.parent? = some dir ↔
      ∃ name, name ≠ "" ∧ '/' ∉ name.toList ∧ path.text = Draft.directory dir.text ++ name := by
  refine ⟨after_calls_show calls, fun raw content fault refused => ?_, FilePath.text_of_parse, FilePath.parent_iff_text⟩
  exact ⟨add_refused _ raw content fault refused, after_refused calls raw content fault refused⟩

end ClientPackager.FileTree
