set_option autoImplicit false

namespace ClientPackager

inductive SegmentDefect where
  | parentReference
  | empty
deriving DecidableEq, Repr

def SegmentDefect.reason : SegmentDefect → String
  | .parentReference => "parent directory reference"
  | .empty => "empty segment"

inductive TreeFault where
  | fileNotFound (path : String)
  | notADirectory (path : String)
  | invalidPath (path : String)
  | notAbsolute (path : String)
  | invalidSegment (path : String) (defect : SegmentDefect)
  | disk (path reason : String)
  | archive (entry reason : String)
deriving DecidableEq, Repr

namespace TreeFault

def message : TreeFault → String
  | .fileNotFound path => s!"File not found: {path}"
  | .notADirectory path => s!"Not a directory: {path}"
  | .invalidPath path => s!"Invalid path: {path}"
  | .notAbsolute path => s!"Path must be absolute: {path}"
  | .invalidSegment path defect => s!"Invalid path component in {path}: {defect.reason}"
  | .disk path reason => s!"I/O error at {path}: {reason}"
  | .archive entry reason => s!"Failed to write archive entry {entry}: {reason}"

def isNotFound : TreeFault → Bool
  | .fileNotFound _ => true
  | _ => false

def isNotDirectory : TreeFault → Bool
  | .notADirectory _ => true
  | _ => false

def isInvalidPath : TreeFault → Bool
  | .invalidPath _ | .notAbsolute _ | .invalidSegment _ _ => true
  | _ => false

def isIo : TreeFault → Bool
  | .disk _ _ | .archive _ _ => true
  | _ => false

end TreeFault
end ClientPackager
