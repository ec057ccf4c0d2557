import ClientPackager.Server.Listing
import ClientPackager.Text.Basic

set_option autoImplicit false

namespace ClientPackager.Text

-- A percent sign and two hexadecimal digits stand for a byte; a percent sign before
-- anything else stands for itself.
def percentBytes : List Char → List UInt8
  | [] => []
  | '%' :: high :: low :: rest =>
    match ofDigits? 16 [high, low] with
    | some byte => .ofNat byte :: percentBytes rest
    | none => 0x25 :: percentBytes (high :: low :: rest)
  | c :: rest => String.utf8EncodeChar c ++ percentBytes rest
termination_by cs => cs.length

def percentDecode (s : String) : Option String :=
  String.fromUTF8? ⟨(percentBytes s.toList).toArray⟩

end ClientPackager.Text

namespace ClientPackager.Server

structure Request where
  method : String
  -- The path and what may follow it after a question mark or a number sign. A scheme
  -- and a host may stand before the path.
  target : String
deriving DecidableEq, Repr

inductive Body where
  | text (content : String)
  | archive (content : Archive)
deriving DecidableEq, Repr

structure Response where
  status : Nat
  contentType : Option String
  body : Body
deriving DecidableEq, Repr

def plainType : String := "text/plain; charset=utf-8"
def listingType : String := "text/markdown; charset=utf-8"
def archiveType : String := "application/tar+gzip"

namespace Response

def bare (status : Nat) : Response := ⟨status, none, .text ""⟩

def plain (status : Nat) (message : String) : Response := ⟨status, some plainType, .text message⟩

def withoutBody (response : Response) : Response := { response with body := .text "" }

end Response

inductive Resource where
  | listing
  | package (name : String)
deriving DecidableEq, Repr

def resource? (path : String) : Option Resource :=
  let start := "/npm/"
  if path = "/npm/packages" then some .listing
  else if Text.hasLeading start path && start.length < path.length then
    some (.package (String.ofList (path.toList.drop start.length)))
  else none

def isSchemeChar (c : Char) : Bool := c.isAlphanum || c == '+' || c == '-' || c == '.'

def endsPath (c : Char) : Bool := c == '?' || c == '#'

def afterHost (address : List Char) : List Char :=
  match address.dropWhile isSchemeChar with
  | ':' :: '/' :: '/' :: rest => rest.dropWhile fun c => c != '/' && !endsPath c
  | _ => []

def pathOf (target : String) : String :=
  let cs := target.toList
  let path := if cs.head? = some '/' then cs else afterHost cs
  String.ofList (path.takeWhile fun c => !endsPath c)

def get (server : Server) (today : Version) : Resource → Response
  | .listing => ⟨200, some listingType, .text server.listing⟩
  | .package name =>
    match Text.percentDecode name with
    | none => .plain 400 "Invalid URL: Invalid UTF-8 in `package_name`"
    | some name =>
      match server.exportPackage name today with
      | .ok archive => ⟨200, some archiveType, .archive archive⟩
      | .error fault => .plain fault.status fault.message

def respond (server : Server) (today : Version) (request : Request) : Response :=
  match resource? (pathOf request.target) with
  | none => .bare 404
  | some resource =>
    if request.method = "GET" then server.get today resource
    else if request.method = "HEAD" then (server.get today resource).withoutBody
    else .bare 405

end ClientPackager.Server
