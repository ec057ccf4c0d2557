import ClientPackager.Descriptor
import ClientPackager.Json.Decode

set_option autoImplicit false

namespace ClientPackager.Descriptor

def kindJson (kind : String) : Json := .object [("kind", .string kind)]

def kindOfJson (kind : String) (content : Json) : Json :=
  .object [("kind", .string kind), ("of", content)]

def toJson : Descriptor → Json
  | number kind => kindOfJson "number" (.string kind.label)
  | boolean => kindJson "boolean"
  | text => kindJson "text"
  | void => kindJson "void"
  | dateTime => kindJson "date_time"
  | binary => kindJson "binary"
  | list element => kindOfJson "list" element.toJson
  | single value => kindOfJson "single" value.toJson
  | stream element => kindOfJson "stream" element.toJson
  | record id => kindOfJson "record" (.string id.text)

-- What stands under `of`, and the type it denotes if it denotes one.
abbrev Content := Option (Json × Option Descriptor)

def plain (type : Descriptor) : Content → Option Descriptor
  | none | some (.null, _) => some type
  | _ => none

def build (kind : String) (content : Content) : Option Descriptor :=
  let type := content.bind (·.2)
  match kind with
  | "number" => content.bind fun entry =>
    ((entry.1.label .plain).bind NumberKind.ofLabel?).map number
  | "boolean" => plain boolean content
  | "text" => plain text content
  | "void" => plain void content
  | "date_time" => plain dateTime content
  | "binary" => plain binary content
  | "list" => type.map list
  | "single" => type.map single
  | "stream" => type.map stream
  | "record" => (content.bind (·.1.string?)).map fun id => record ⟨id⟩
  | _ => none

mutual
-- An object, or an array of the kind and its content. In an array the kind is a string.
def ofJson? : Json → Option Descriptor
  | .object members =>
    if Json.distinct ["kind", "of"] members then
      ((members.lookup "kind").bind (Json.label .plain)).bind fun kind =>
        build kind (contentOf members)
    else none
  | .array [.string kind, content] => build kind (some (content, ofJson? content))
  | _ => none
def contentOf : List (String × Json) → Content
  | [] => none
  | (name, value) :: rest => if name = "of" then some (value, ofJson? value) else contentOf rest
end

end ClientPackager.Descriptor
