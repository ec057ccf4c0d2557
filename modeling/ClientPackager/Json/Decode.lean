import ClientPackager.Json.Basic

set_option autoImplicit false

namespace ClientPackager.Json

def distinct (names : List String) (members : List (String × Json)) : Bool :=
  names.all fun name => (members.filter (·.1 == name)).length ≤ 1

-- A record is written as an object, whose members may come in any order and among
-- unknown ones, or as an array of its fields in their declared order. A label is
-- written as a string, or as the only key of an object over a value that says nothing,
-- such as null. What else is accepted depends on where the values come from.
structure Manner where
  saysNothing : Json → Bool
  skippable : Json → Bool
  moreItems : Bool

def isNull : Json → Bool
  | .null => true
  | _ => false

def Manner.plain : Manner := ⟨isNull, fun _ => true, false⟩

-- An object may lack any of the fields but has none of them twice; an array holds them
-- in order, the first `least` at least.
def fields (manner : Manner) (names : List String) (least : Nat) :
    Json → Option (List (Option Json))
  | .object members =>
    let others := members.filter fun member => !names.contains member.1
    if distinct names members && others.all fun member => manner.skippable member.2 then
      some (names.map fun name => members.lookup name)
    else none
  | .array items =>
    if least ≤ items.length && (manner.moreItems || items.length ≤ names.length) then
      let items := items.take names.length
      some (items.map some ++ List.replicate (names.length - items.length) none)
    else none
  | _ => none

-- A field that may be missing or null.
def nullable {α : Type} (read : Json → Option α) : Option Json → Option (Option α)
  | none => some none
  | some .null => some none
  | some value => (read value).map some

-- A field that may be missing but not null.
def orElse {α : Type} (default : α) (read : Json → Option α) : Option Json → Option α
  | none => some default
  | some value => read value

def required {α : Type} (read : Json → Option α) (value : Option Json) : Option α := value.bind read

def list {α : Type} (read : Json → Option α) : Json → Option (List α)
  | .array items => items.mapM read
  | _ => none

def label (manner : Manner) : Json → Option String
  | .string name => some name
  | .object [(name, value)] => if manner.saysNothing value then some name else none
  | _ => none

end ClientPackager.Json
