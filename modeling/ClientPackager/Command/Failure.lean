import ClientPackager.Fault
import ClientPackager.Files.Fault

set_option autoImplicit false

namespace ClientPackager

inductive Cause where
  | fault (fault : Fault)
  | tree (fault : TreeFault)
  -- A fault of the disk at a path that the context names.
  | disk (reason : String)
deriving DecidableEq, Repr

namespace Cause

def message : Cause → String
  | fault cause => cause.message
  | tree cause => cause.message
  | disk reason => reason

def status : Cause → ExitStatus
  | fault cause => .ofFault cause
  | _ => .failure

def hasReason : Cause → Bool
  | tree cause => cause.isIo
  | _ => false

end Cause

structure Failure where
  doing : Option String
  cause : Cause
deriving DecidableEq, Repr

namespace Failure

-- What was being done, or else a cause that has a reason.
def context (failure : Failure) : Option String :=
  failure.doing <|> if failure.cause.hasReason then some failure.cause.message else none

def message (failure : Failure) : String :=
  match failure.doing with
  | some doing => doing ++ ": " ++ failure.cause.message
  | none => failure.cause.message

def status (failure : Failure) : ExitStatus := failure.cause.status

end Failure
end ClientPackager
