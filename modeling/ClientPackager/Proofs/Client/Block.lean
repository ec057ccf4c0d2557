import ClientPackager.Client.Script
import ClientPackager.Proofs.Template.Yields
import ClientPackager.Proofs.Text.Pieces

set_option autoImplicit false

namespace ClientPackager.Client

open Template

def commentLines (margin : String) (all : List String) : String :=
  String.join (all.map fun line => margin ++ line ++ "\n")

-- Blocks with a text between each two of them, and nothing at all for none.
def blocks (opening between : String) (all : List String) : String :=
  if all = [] then "" else opening ++ between.intercalate all ++ "\n"

-- Trimming takes the line feed behind such a text, and nothing else.
def Closed (text : String) : Prop :=
  ∃ front last, text.toList = front ++ [last] ∧ Text.isBlank last = false

theorem closed_append (front close : String) (closed : Closed close) : Closed (front ++ close) := by
  obtain ⟨start, last, shape, solid⟩ := closed
  exact ⟨front.toList ++ start, last, by simp [shape], solid⟩

theorem closed_join (pieces : List String) (close : String) (last : Char) (ends : pieces.getLast? = some close)
    (shown : close.toList.getLast? = some last) (solid : Text.isBlank last = false) : Closed (String.join pieces) := by
  obtain ⟨earlier, rfl⟩ := List.getLast?_eq_some_iff.mp ends
  obtain ⟨front, shape⟩ := List.getLast?_eq_some_iff.mp shown
  have joined : String.join (earlier ++ [close]) = String.join earlier ++ close := by simp
  exact joined ▸ closed_append (String.join earlier) close ⟨front, last, shape, solid⟩

theorem trim_end_newline (text : String) (closed : Closed text) : Text.trimEnd (text ++ "\n") = text := by
  obtain ⟨front, last, shape, solid⟩ := closed
  apply String.toList_inj.mp
  have newline : Text.isBlank '\n' = true := rfl
  simp [Text.trimEnd, Text.dropTrailingBlank, shape, solid, newline]

theorem closed_ne_empty (text : String) (closed : Closed text) : text ≠ "" := by
  rintro rfl
  obtain ⟨front, last, shape, _⟩ := closed
  simp at shape

theorem intercalate_ne_empty (between : String) (all : List String) (present : all ≠ [])
    (closed : ∀ block ∈ all, Closed block) : between.intercalate all ≠ "" := by
  cases all with
  | nil => exact absurd rfl present
  | cons block rest =>
      have first : block ≠ "" := closed_ne_empty block (closed block List.mem_cons_self)
      cases rest with
      | nil => simpa using first
      | cons next later =>
          rw [String.intercalate_cons_cons]
          simp [first]

theorem holds_joined {α : Type} (between : String) (values : List α) (text : α → String)
    (closed : ∀ value, Closed (text value)) :
    holds (.string (between.intercalate (values.map text))) = !decide (values.map text = []) := by
  cases values with
  | nil => rfl
  | cons value rest =>
      have present := intercalate_ne_empty between ((value :: rest).map text) (by simp) fun block member => by
        obtain ⟨inner, _, rfl⟩ := List.mem_map.mp member
        exact closed inner
      simpa [holds] using present

-- Each block starts a line of its own.
theorem block_shown (block : String) (all : List String) (listed : block ∈ all) :
    ∃ before after, blocks "\n" "\n\n" all = before ++ "\n" ++ block ++ after := by
  obtain ⟨before, after, shape, ends⟩ := Text.intercalate_infix "\n\n" block all listed
  rw [blocks, if_neg (List.ne_nil_of_mem listed), shape]
  rcases ends with rfl | ⟨front, rfl⟩
  · exact ⟨"", after ++ "\n", by simp only [String.empty_append, String.append_assoc]⟩
  · have gap : "\n\n" = "\n" ++ "\n" := rfl
    exact ⟨"\n" ++ front ++ "\n", after ++ "\n", by simp only [gap, String.append_assoc]⟩

theorem comment_line_yields (margin text : String) :
    Yields (.string text) [.text margin, .value [], .text "\n"] (margin ++ text ++ "\n") := by
  simpa only [write, String.append_assoc, String.append_empty] using
    yields_text margin (yields_value [] (.string text) rfl (yields_text "\n" yields_nil))

-- A fragment loses the line feed at its end and nothing else.
theorem fragments_render {α : Type} (library : Library) (equipped : Equipped library) (file : String)
    (template : Template) (values : List α) (context : α → Json) (text : α → String)
    (listed : builtIn.lookup file = some template)
    (yields : ∀ value, Yields (context value) template (text value ++ "\n"))
    (closed : ∀ value, Closed (text value)) :
    (values.mapM fun value => Script.fragment library file (context value)) = .ok (values.map text) := by
  apply map_m_ok
  intro value _
  rw [Script.fragment, equipped_renders library equipped file template (text value ++ "\n") listed (yields value)]
  simp only [Except.map, trim_end_newline (text value) (closed value)]

end ClientPackager.Client
