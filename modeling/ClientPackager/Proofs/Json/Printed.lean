import ClientPackager.Proofs.Json.Layout

set_option autoImplicit false

namespace ClientPackager.Json

-- Values made of words alone: the text of a number is not read back by these
-- means, and a value that cannot be decoded has none of its own.
inductive Worded : Json → Prop where
  | null : Worded .null
  | bool (value : Bool) : Worded (.bool value)
  | string (s : String) : Worded (.string s)
  | array (items : List Json) (each : ∀ item ∈ items, Worded item) : Worded (.array items)
  | object (members : List (String × Json)) (each : ∀ member ∈ members, Worded member.2) : Worded (.object members)

-- Both printers put the same marks between entries; they differ in the blanks
-- in front of an entry and behind the colon.
def laidItems (lead : List Char) (print : Json → List Char) : List Json → List Char
  | [] => []
  | [item] => lead ++ print item
  | item :: next :: rest => lead ++ (print item ++ ',' :: laidItems lead print (next :: rest))

def laidMembers (lead between : List Char) (print : Json → List Char) : List (String × Json) → List Char
  | [] => []
  | [(name, value)] => lead ++ (quoted name ++ ':' :: (between ++ print value))
  | (name, value) :: next :: rest =>
    lead ++ (quoted name ++ ':' :: (between ++ (print value ++ ',' :: laidMembers lead between print (next :: rest))))

theorem compact_items_laid (items : List Json) : compactItems items = laidItems [] compactChars items := by
  fun_induction laidItems [] compactChars items with
  | case1 => rfl
  | case2 item => rfl
  | case3 item next rest ih => rw [compactItems, ih, List.nil_append]

theorem compact_members_laid (members : List (String × Json)) :
    compactMembers members = laidMembers [] [] compactChars members := by
  fun_induction laidMembers [] [] compactChars members with
  | case1 => rfl
  | case2 name value => rfl
  | case3 name value next rest ih => rw [compactMembers, ih]; rfl

theorem indented_items_laid (level : Nat) (items : List Json) :
    indentedItems level items = laidItems (lineBreak level) (indentedChars level) items := by
  fun_induction laidItems (lineBreak level) (indentedChars level) items with
  | case1 => rfl
  | case2 item => rfl
  | case3 item next rest ih => rw [indentedItems, ih]

theorem indented_members_laid (level : Nat) (members : List (String × Json)) :
    indentedMembers level members = laidMembers (lineBreak level) [' '] (indentedChars level) members := by
  fun_induction laidMembers (lineBreak level) [' '] (indentedChars level) members with
  | case1 => rfl
  | case2 name value => rfl
  | case3 name value next rest ih => rw [indentedMembers, ih]; rfl

section Laid

variable (lead between closing : List Char) (print : Json → List Char) (before : Gap lead) (middle : Gap between)
  (after : Gap closing)

include before after

theorem laid_items_written (item : Json) (rest : List Json)
    (each : ∀ value ∈ item :: rest, Writes (.value value) (print value)) :
    Writes (.items (item :: rest)) (laidItems lead print (item :: rest) ++ (closing ++ [']'])) := by
  have first : Writes (.value item) (lead ++ print item) := .spaced item lead _ before (each item List.mem_cons_self)
  induction rest generalizing item with
  | nil => exact .lastItem item _ closing first after
  | cons next later ih =>
      have below := fun value member => each value (List.mem_cons_of_mem item member)
      have others := ih next below (.spaced next lead _ before (below next List.mem_cons_self))
      have shape : laidItems lead print (item :: next :: later) ++ (closing ++ [']']) =
          (lead ++ print item) ++ ([] ++ ',' :: (laidItems lead print (next :: later) ++ (closing ++ [']']))) := by
        simp [laidItems]
      rw [shape]
      exact .nextItem item _ _ [] _ first (by simp [Gap]) others

include middle

theorem laid_members_written (member : String × Json) (rest : List (String × Json))
    (each : ∀ entry ∈ member :: rest, Writes (.value entry.2) (print entry.2)) :
    Writes (.members (member :: rest)) (laidMembers lead between print (member :: rest) ++ (closing ++ ['}'])) := by
  obtain ⟨name, value⟩ := member
  have first : Writes (.value value) (between ++ print value) :=
    .spaced value between _ middle (each (name, value) List.mem_cons_self)
  induction rest generalizing name value with
  | nil =>
      have shape : laidMembers lead between print [(name, value)] ++ (closing ++ ['}']) =
          lead ++ (quoted name ++ ([] ++ ':' :: ((between ++ print value) ++ (closing ++ ['}'])))) := by
        simp [laidMembers]
      rw [shape]
      exact .lastMember name value lead [] _ closing before (by simp [Gap]) first after
  | cons next later ih =>
      have below := fun entry member => each entry (List.mem_cons_of_mem (name, value) member)
      have others := ih next.1 next.2 below (.spaced next.2 between _ middle (below next List.mem_cons_self))
      have shape : laidMembers lead between print ((name, value) :: next :: later) ++ (closing ++ ['}']) =
          lead ++ (quoted name ++ ([] ++ ':' :: ((between ++ print value) ++ ([] ++ ',' ::
            (laidMembers lead between print (next :: later) ++ (closing ++ ['}'])))))) := by
        simp [laidMembers]
      rw [shape]
      exact .nextMember name value _ lead [] _ [] _ before (by simp [Gap]) first (by simp [Gap]) others

end Laid

theorem compact_written (value : Json) (worded : Worded value) : Writes (.value value) value.compactChars := by
  have none : Gap [] := by simp [Gap]
  induction worded with
  | null => exact .null
  | bool value => cases value <;> constructor
  | string s => exact .string s
  | array items _ ih =>
      cases items with
      | nil => exact .noItems [] none
      | cons item rest =>
          rw [compactChars, compact_items_laid]
          exact .array _ _ (laid_items_written [] [] compactChars none none item rest ih)
  | object members _ ih =>
      cases members with
      | nil => exact .noMembers [] none
      | cons member rest =>
          rw [compactChars, compact_members_laid]
          exact .object _ _ (laid_members_written [] [] [] compactChars none none none member rest ih)

theorem line_break_gap (level : Nat) : Gap (lineBreak level) := by
  intro c member
  rcases List.mem_cons.mp member with rfl | blank
  · rfl
  · rw [(List.mem_replicate.mp blank).2]
    rfl

theorem indented_written (value : Json) (worded : Worded value) (level : Nat) :
    Writes (.value value) (value.indentedChars level) := by
  have none : Gap [] := by simp [Gap]
  induction worded generalizing level with
  | null => exact .null
  | bool value => cases value <;> constructor
  | string s => exact .string s
  | array items _ ih =>
      cases items with
      | nil => exact .noItems [] none
      | cons item rest =>
          rw [indentedChars, indented_items_laid]
          exact .array _ _ (laid_items_written _ _ _ (line_break_gap _) (line_break_gap _) item rest
            fun value member => ih value member (level + 1))
  | object members _ ih =>
      cases members with
      | nil => exact .noMembers [] none
      | cons member rest =>
          rw [indentedChars, indented_members_laid]
          exact .object _ _ (laid_members_written _ _ _ _ (line_break_gap _) (by simp [Gap, isSpace]) (line_break_gap _)
            member rest fun entry listed => ih entry listed (level + 1))

-- Blanks may follow a value to the end of its text.
theorem parse_before_gap (value : Json) (cs gap : List Char) (written : Writes (.value value) cs) (blank : Gap gap) :
    parse (String.ofList (cs ++ gap)) = some value := by
  have enough : cs.length < 2 * (cs ++ gap).length + 2 := by
    rw [List.length_append]
    omega
  have read : readValue (2 * (cs ++ gap).length + 2) (cs ++ gap) = some (value, gap) :=
    written_read _ cs written _ gap enough
  have rest : skipSpace gap = [] := by simpa [skipSpace] using skip_gap gap [] blank
  simp only [parse, String.toList_ofList, read, rest, if_true]

theorem parse_written (value : Json) (cs : List Char) (written : Writes (.value value) cs) :
    parse (String.ofList cs) = some value := by
  simpa using parse_before_gap value cs [] written (by simp [Gap])

theorem parse_printed (value : Json) (worded : Worded value) :
    parse value.compact = some value ∧ parse value.indented = some value :=
  ⟨parse_written value _ (compact_written value worded), parse_written value _ (indented_written value worded 0)⟩

end ClientPackager.Json
