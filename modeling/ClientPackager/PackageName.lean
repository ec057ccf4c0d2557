import ClientPackager.Fault
import ClientPackager.Text.Split

set_option autoImplicit false

namespace ClientPackager

namespace PackageName

def maxSize : Nat := 214

def isTailChar (c : Char) : Bool := c.isAlphanum || c == '.' || c == '_' || c == '~' || c == '-'

def isSegment : List Char → Bool
  | [] => false
  | first :: rest => first.isAlphanum && rest.all isTailChar

def isName (cs : List Char) : Bool :=
  match Text.pieces '/' cs with
  | [segment] => isSegment segment
  | ['@' :: scope, segment] => isSegment scope && isSegment segment
  | _ => false

end PackageName

structure PackageName where
  text : String
  short_enough : text.utf8ByteSize ≤ PackageName.maxSize
  well_formed : PackageName.isName text.toList = true
deriving DecidableEq, Repr

namespace PackageName

inductive Defect where
  | empty
  | tooLong
  | malformed (text : String)
deriving DecidableEq, Repr

def Defect.reason : Defect → String
  | .empty => "package name cannot be empty"
  | .tooLong => s!"package name exceeds {maxSize} characters"
  | .malformed text => s!"'{text}' is not a valid npm package name"

def parse (text : String) : Except Defect PackageName :=
  let name := Text.dropLeading '/' text
  if name = "" then .error .empty
  else if short : name.utf8ByteSize ≤ maxSize then
    if formed : isName name.toList = true then .ok ⟨name, short, formed⟩
    else .error (.malformed name)
  else .error .tooLong

def Defect.fault (defect : Defect) : Fault := .validation "package_name" defect.reason

def shortName (name : PackageName) : String := Text.afterLast '/' name.text

end PackageName
end ClientPackager
