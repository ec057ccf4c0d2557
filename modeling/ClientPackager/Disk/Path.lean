import ClientPackager.Text.Split

set_option autoImplicit false

namespace ClientPackager.DiskPath

-- Slashes stand between the steps of a path; one in front makes it absolute, further
-- ones and steps of a single dot change nothing.
def isAbsolute (path : String) : Bool := Text.hasLeading "/" path

def join (dir path : String) : String :=
  if isAbsolute path then path
  else if dir = "" || Text.hasTrailing "/" dir then dir ++ path
  else dir ++ "/" ++ path

def expandTilde (home path : String) : String :=
  if path = "~" || path = "~/" then home
  else match path.toList with
    | '~' :: '/' :: rest => join home (String.ofList rest)
    | _ => path

-- A single dot is a step only at the front of a path that is not absolute.
def steps (path : String) : List String :=
  let pieces := (Text.splitOn '/' path).filter (· ≠ "")
  match pieces with
  | "." :: rest =>
    if isAbsolute path then rest.filter (· ≠ ".") else "." :: rest.filter (· ≠ ".")
  | pieces => pieces.filter (· ≠ ".")

def ofSteps (absolute : Bool) (steps : List String) : String :=
  (if absolute then "/" else "") ++ "/".intercalate steps

def parent (path : String) : String := ofSteps (isAbsolute path) (steps path).dropLast

def upward (path : String) : List String :=
  if path = "" then []
  else
    let all := steps path
    let above := (List.range all.length).reverse.map fun n => all.take n
    let above := if isAbsolute path then above else above.filter (· ≠ [])
    path :: above.map (ofSteps (isAbsolute path))

def fileName? (path : String) : Option String :=
  (steps path).getLast?.filter fun name => name ≠ "." && name ≠ ".."

-- A name whose only dot is in front has no extension.
def extensionOf? (name : String) : Option String :=
  match (Text.splitOn '.' name).reverse with
  | [_] | [_, ""] | [] => none
  | last :: _ => some last

def extension? (path : String) : Option String := (fileName? path).bind extensionOf?

def hasExtension (extension path : String) : Bool :=
  (extension? path).any fun found => found.map Char.toLower == extension

end ClientPackager.DiskPath
