import ClientPackager.Proofs.Json.Quoted

set_option autoImplicit false

namespace ClientPackager.Json

-- What a text can be of: a value, or what an array or an object holds with the
-- bracket at its end.
inductive Part where
  | value (value : Json)
  | items (items : List Json)
  | members (members : List (String × Json))

def Gap (cs : List Char) : Prop := ∀ c ∈ cs, isSpace c = true

-- The texts of a value in any layout: blanks may stand on both sides of every
-- mark. No document holds a number, so none is written here.
inductive Writes : Part → List Char → Prop where
  | spaced (value : Json) (gap cs : List Char) (blank : Gap gap) (written : Writes (.value value) cs) :
      Writes (.value value) (gap ++ cs)
  | null : Writes (.value .null) ['n', 'u', 'l', 'l']
  | yes : Writes (.value (.bool true)) ['t', 'r', 'u', 'e']
  | no : Writes (.value (.bool false)) ['f', 'a', 'l', 's', 'e']
  | string (s : String) : Writes (.value (.string s)) (quoted s)
  | noItems (gap : List Char) (blank : Gap gap) : Writes (.value (.array [])) ('[' :: (gap ++ [']']))
  | array (items : List Json) (cs : List Char) (inside : Writes (.items items) cs) :
      Writes (.value (.array items)) ('[' :: cs)
  | noMembers (gap : List Char) (blank : Gap gap) : Writes (.value (.object [])) ('{' :: (gap ++ ['}']))
  | object (members : List (String × Json)) (cs : List Char) (inside : Writes (.members members) cs) :
      Writes (.value (.object members)) ('{' :: cs)
  | lastItem (item : Json) (cs gap : List Char) (written : Writes (.value item) cs) (blank : Gap gap) :
      Writes (.items [item]) (cs ++ (gap ++ [']']))
  | nextItem (item : Json) (rest : List Json) (cs gap more : List Char) (written : Writes (.value item) cs)
      (blank : Gap gap) (later : Writes (.items rest) more) :
      Writes (.items (item :: rest)) (cs ++ (gap ++ ',' :: more))
  | lastMember (name : String) (value : Json) (lead gap cs behind : List Char) (before : Gap lead) (blank : Gap gap)
      (written : Writes (.value value) cs) (after : Gap behind) :
      Writes (.members [(name, value)]) (lead ++ (quoted name ++ (gap ++ ':' :: (cs ++ (behind ++ ['}'])))))
  | nextMember (name : String) (value : Json) (rest : List (String × Json)) (lead gap cs behind more : List Char)
      (before : Gap lead) (blank : Gap gap) (written : Writes (.value value) cs) (after : Gap behind)
      (later : Writes (.members rest) more) :
      Writes (.members ((name, value) :: rest))
        (lead ++ (quoted name ++ (gap ++ ':' :: (cs ++ (behind ++ ',' :: more)))))

theorem skip_gap (gap cs : List Char) (blank : Gap gap) : skipSpace (gap ++ cs) = skipSpace cs :=
  List.dropWhile_append_of_pos blank

theorem skip_solid (c : Char) (cs : List Char) (solid : isSpace c = false) : skipSpace (c :: cs) = c :: cs := by
  simp [skipSpace, solid]

theorem skip_mark (gap cs : List Char) (c : Char) (blank : Gap gap) (solid : isSpace c = false) :
    skipSpace (gap ++ c :: cs) = c :: cs := by
  rw [skip_gap gap _ blank, skip_solid c cs solid]

-- A closing bracket behind an opening one closes nothing but an empty array or
-- object.
theorem written_opens (part : Part) (cs : List Char) (written : Writes part cs) (rest : List Char) :
    ∃ c tail, skipSpace (cs ++ rest) = c :: tail ∧ c ≠ ']' ∧ c ≠ '}' := by
  induction written generalizing rest with
  | spaced value gap cs blank _ ih =>
      rw [List.append_assoc, skip_gap gap _ blank]
      exact ih rest
  | null | yes | no => exact ⟨_, _, skip_solid _ _ rfl, by decide, by decide⟩
  | string | noItems | array | noMembers | object => exact ⟨_, _, skip_solid _ _ rfl, by decide, by decide⟩
  | lastItem item cs gap _ _ ih =>
      rw [List.append_assoc]
      exact ih _
  | nextItem item rest cs gap more _ _ _ ih =>
      rw [List.append_assoc]
      exact ih _
  | lastMember name value lead gap cs behind before =>
      rw [List.append_assoc, skip_gap lead _ before]
      exact ⟨_, _, skip_solid _ _ rfl, by decide, by decide⟩
  | nextMember name value rest lead gap cs behind more before =>
      rw [List.append_assoc, skip_gap lead _ before]
      exact ⟨_, _, skip_solid _ _ rfl, by decide, by decide⟩

-- A value in front of any text is read and the text left over. One unit of
-- fuel for each character is enough.
def Reads (fuel : Nat) (cs rest : List Char) : Part → Prop
  | .value value => readValue fuel (cs ++ rest) = some (value, rest)
  | .items items => readItems fuel (cs ++ rest) = some (items, rest)
  | .members members => readMembers fuel (cs ++ rest) = some (members.map fun (name, value) => (some name, value), rest)

theorem read_spaced (fuel : Nat) (gap cs : List Char) (blank : Gap gap) :
    readValue fuel (gap ++ cs) = readValue fuel cs := by
  cases fuel with
  | zero => rfl
  | succ fuel => rw [readValue, readValue, skip_gap gap cs blank]

theorem quoted_append (s : String) (rest : List Char) :
    quoted s ++ rest = '"' :: (s.toList.flatMap escape ++ '"' :: rest) := by
  simp [quoted]

theorem of_named_members (members : List (String × Json)) :
    ofMembers (members.map fun member => (some member.1, member.2)) = .object members := by
  have named (read : Option String × Json → Option (String × Json))
      (own : ∀ member : String × Json, read (some member.1, member.2) = some member) :
      (members.map fun member => (some member.1, member.2)).mapM read = some members := by
    induction members with
    | nil => rfl
    | cons member rest ih => simp [List.mapM_cons, own, ih]
  rw [ofMembers, named _ fun _ => rfl]

-- Each of these reads one mark and leaves what is behind it to the calls below.
section Marks

variable (fuel : Nat) (text gap rest : List Char)

theorem read_empty_array (blank : Gap gap) :
    readValue (fuel + 1) ('[' :: (gap ++ ']' :: rest)) = some (.array [], rest) := by
  rw [readValue, skip_solid _ _ rfl]
  simp only [skip_mark gap rest ']' blank rfl]
  rfl

theorem read_array (items : List Json) (opens : ∃ c tail, skipSpace text = c :: tail ∧ c ≠ ']')
    (read : readItems fuel text = some (items, rest)) :
    readValue (fuel + 1) ('[' :: text) = some (.array items, rest) := by
  obtain ⟨c, tail, opens, solid⟩ := opens
  rw [readValue, skip_solid _ _ rfl]
  simp only [opens, read]
  split
  · next same => exact absurd (List.cons.inj same).1 solid
  · rfl

theorem read_empty_object (blank : Gap gap) :
    readValue (fuel + 1) ('{' :: (gap ++ '}' :: rest)) = some (.object [], rest) := by
  rw [readValue, skip_solid _ _ rfl]
  simp only [skip_mark gap rest '}' blank rfl]
  rfl

theorem read_object (members : List (String × Json)) (opens : ∃ c tail, skipSpace text = c :: tail ∧ c ≠ '}')
    (read : readMembers fuel text = some (members.map fun (name, value) => (some name, value), rest)) :
    readValue (fuel + 1) ('{' :: text) = some (.object members, rest) := by
  obtain ⟨c, tail, opens, solid⟩ := opens
  rw [readValue, skip_solid _ _ rfl]
  simp only [opens, read]
  split
  · next same => exact absurd (List.cons.inj same).1 solid
  · exact congrArg (fun value => some (value, rest)) (of_named_members members)

theorem read_last_item (item : Json) (blank : Gap gap) (read : readValue fuel text = some (item, gap ++ ']' :: rest)) :
    readItems (fuel + 1) text = some ([item], rest) := by
  rw [readItems, read]
  simp only [Option.bind_eq_bind, Option.bind_some, skip_mark gap rest ']' blank rfl]
  rfl

theorem read_next_item (item : Json) (later : List Json) (more : List Char) (blank : Gap gap)
    (read : readValue fuel text = some (item, gap ++ ',' :: more)) (others : readItems fuel more = some (later, rest)) :
    readItems (fuel + 1) text = some (item :: later, rest) := by
  rw [readItems, read]
  simp only [Option.bind_eq_bind, Option.bind_some, skip_mark gap more ',' blank rfl, others]
  rfl

variable (name : String) (value : Json) (lead behind : List Char) (before : Gap lead) (blank : Gap gap)
  (after : Gap behind)

include before blank after

theorem read_last_member (read : readValue fuel text = some (value, behind ++ '}' :: rest)) :
    readMembers (fuel + 1) (lead ++ (quoted name ++ (gap ++ ':' :: text))) = some ([(some name, value)], rest) := by
  rw [quoted_append, readMembers, skip_mark lead _ '"' before rfl]
  simp only [string_body, Option.bind_eq_bind, Option.bind_some, skip_mark gap text ':' blank rfl, read,
    skip_mark behind rest '}' after rfl]
  rfl

theorem read_next_member (later : List (Option String × Json)) (more : List Char)
    (read : readValue fuel text = some (value, behind ++ ',' :: more))
    (others : readMembers fuel more = some (later, rest)) :
    readMembers (fuel + 1) (lead ++ (quoted name ++ (gap ++ ':' :: text))) =
      some ((some name, value) :: later, rest) := by
  rw [quoted_append, readMembers, skip_mark lead _ '"' before rfl]
  simp only [string_body, Option.bind_eq_bind, Option.bind_some, skip_mark gap text ':' blank rfl, read,
    skip_mark behind more ',' after rfl, others]
  rfl

end Marks

theorem written_read (part : Part) (cs : List Char) (written : Writes part cs) (fuel : Nat) (rest : List Char)
    (enough : cs.length < fuel) : Reads fuel cs rest part := by
  induction written generalizing fuel rest with
  | spaced value gap cs blank _ ih =>
      rw [Reads, List.append_assoc, read_spaced _ gap _ blank]
      exact ih fuel rest (by rw [List.length_append] at enough; omega)
  | null | yes | no =>
      obtain ⟨left, rfl⟩ := Nat.exists_eq_add_one.mpr (Nat.zero_lt_of_lt enough)
      rfl
  | string s =>
      obtain ⟨left, rfl⟩ := Nat.exists_eq_add_one.mpr (Nat.zero_lt_of_lt enough)
      rw [Reads, quoted_append, readValue, skip_solid _ _ rfl]
      simp only [string_body]
      rfl
  | noItems gap blank =>
      obtain ⟨left, rfl⟩ := Nat.exists_eq_add_one.mpr (Nat.zero_lt_of_lt enough)
      rw [Reads, List.cons_append, List.append_assoc]
      exact read_empty_array left gap rest blank
  | array items cs inside ih =>
      obtain ⟨left, rfl⟩ := Nat.exists_eq_add_one.mpr (Nat.zero_lt_of_lt enough)
      obtain ⟨c, tail, opens, solid, _⟩ := written_opens _ cs inside rest
      exact read_array left _ rest items ⟨c, tail, opens, solid⟩
        (ih left rest (by rw [List.length_cons] at enough; omega))
  | noMembers gap blank =>
      obtain ⟨left, rfl⟩ := Nat.exists_eq_add_one.mpr (Nat.zero_lt_of_lt enough)
      rw [Reads, List.cons_append, List.append_assoc]
      exact read_empty_object left gap rest blank
  | object members cs inside ih =>
      obtain ⟨left, rfl⟩ := Nat.exists_eq_add_one.mpr (Nat.zero_lt_of_lt enough)
      obtain ⟨c, tail, opens, _, solid⟩ := written_opens _ cs inside rest
      exact read_object left _ rest members ⟨c, tail, opens, solid⟩
        (ih left rest (by rw [List.length_cons] at enough; omega))
  | lastItem item cs gap _ blank ih =>
      obtain ⟨left, rfl⟩ := Nat.exists_eq_add_one.mpr (Nat.zero_lt_of_lt enough)
      simp only [List.length_append, List.length_cons] at enough
      rw [Reads, List.append_assoc, List.append_assoc]
      exact read_last_item left _ gap rest item blank (ih left _ (by omega))
  | nextItem item later cs gap more _ blank _ ihItem ihRest =>
      obtain ⟨left, rfl⟩ := Nat.exists_eq_add_one.mpr (Nat.zero_lt_of_lt enough)
      simp only [List.length_append, List.length_cons] at enough
      rw [Reads, List.append_assoc, List.append_assoc, List.cons_append]
      exact read_next_item left _ gap rest item later (more ++ rest) blank (ihItem left _ (by omega))
        (ihRest left rest (by omega))
  | lastMember name value lead gap cs behind before blank _ after ih =>
      obtain ⟨left, rfl⟩ := Nat.exists_eq_add_one.mpr (Nat.zero_lt_of_lt enough)
      simp only [List.length_append, List.length_cons] at enough
      simp only [Reads, List.append_assoc, List.cons_append, List.nil_append]
      exact read_last_member left _ gap rest name value lead behind before blank after (ih left _ (by omega))
  | nextMember name value later lead gap cs behind more before blank _ after _ ihValue ihRest =>
      obtain ⟨left, rfl⟩ := Nat.exists_eq_add_one.mpr (Nat.zero_lt_of_lt enough)
      simp only [List.length_append, List.length_cons] at enough
      simp only [Reads, List.append_assoc, List.cons_append]
      exact read_next_member left _ gap rest name value lead behind before blank after _ (more ++ rest)
        (ihValue left _ (by omega)) (ihRest left rest (by omega))

end ClientPackager.Json
