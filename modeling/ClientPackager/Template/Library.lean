import ClientPackager.Template.BuiltIn
import ClientPackager.Template.Reader
import ClientPackager.Template.Render

set_option autoImplicit false

namespace ClientPackager.Template

-- A name stands for the template registered last, or for a built-in one.
structure Library where
  templates : List (String × Template)
deriving Repr

namespace Library

def standard : Library := ⟨builtIn⟩

def has (library : Library) (name : String) : Bool := (library.templates.lookup name).isSome

def register (library : Library) (name source : String) : Outcome Library :=
  match parse source with
  | some template => .ok ⟨(name, template) :: library.templates⟩
  | none => .error (.template name Defect.malformed.reason)

def fault (name : String) (defect : Defect) : Fault := .template name defect.reason

def render (library : Library) (name : String) (context : Json) : Outcome String :=
  match library.templates.lookup name with
  | some template => (template.render context).mapError (fault name)
  | none => .error (fault name .unknownTemplate)

end Library

def renderSource (source : String) (context : Json) : Outcome String :=
  match parse source with
  | some template => (template.render context).mapError (Library.fault "<inline>")
  | none => .error (Library.fault "<inline>" .malformed)

end ClientPackager.Template
