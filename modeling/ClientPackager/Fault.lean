set_option autoImplicit false

namespace ClientPackager

inductive Fault where
  | invalidContract (service reason : String)
  | contractNotFound (name : String)
  | invalidTypeExpression (expression reason : String)
  | unreadableConfig
  | config (reason : String)
  | serialization (reason : String)
  | template (name reason : String)
  | invalidArgument (reason : String)
  | validation (field reason : String)
  | io (path : String)
deriving DecidableEq, Repr

namespace Fault

def message : Fault → String
  | .invalidContract service reason => s!"Invalid contract for '{service}': {reason}"
  | .contractNotFound name => s!"Contract not found: {name}"
  | .invalidTypeExpression expression reason =>
    s!"Invalid type expression '{expression}': {reason}"
  | .unreadableConfig => "Configuration error: failed to parse config"
  | .config reason => s!"Configuration error: {reason}"
  | .serialization reason => s!"Serialization error: {reason}"
  | .template name reason => s!"Template '{name}' failed: {reason}"
  | .invalidArgument reason => s!"Invalid argument: {reason}"
  | .validation field reason => s!"Validation error in {field}: {reason}"
  | .io path => s!"I/O error at {path}"

def isInvalidContract : Fault → Bool
  | .invalidContract _ _ => true
  | _ => false

def isNotFound : Fault → Bool
  | .contractNotFound _ => true
  | _ => false

def isTypeExpression : Fault → Bool
  | .invalidTypeExpression _ _ => true
  | _ => false

def isConfig : Fault → Bool
  | .unreadableConfig | .config _ => true
  | _ => false

def isTemplate : Fault → Bool
  | .template _ _ => true
  | _ => false

def isValidation : Fault → Bool
  | .validation _ _ => true
  | _ => false

end Fault

abbrev Outcome (α : Type) := Except Fault α

structure ExitStatus where
  code : Int
deriving DecidableEq, Repr

namespace ExitStatus

def success : ExitStatus := ⟨0⟩

def failure : ExitStatus := ⟨1⟩

def invalidInput : ExitStatus := ⟨2⟩

def notFound : ExitStatus := ⟨3⟩

def isSuccess (status : ExitStatus) : Bool := status = success

def ofFault : Fault → ExitStatus
  | .contractNotFound _ => notFound
  | .invalidContract _ _ | .invalidTypeExpression _ _ | .validation _ _ | .invalidArgument _ =>
    invalidInput
  | _ => failure

def text (status : ExitStatus) : String := toString status.code

end ExitStatus
end ClientPackager
