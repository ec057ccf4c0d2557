import ClientPackager.Template.Tag

set_option autoImplicit false

namespace ClientPackager.Template

def consChar (c : Char) : List Segment → List Segment
  | .text text :: rest => .text (c :: text) :: rest
  | rest => .text [c] :: rest

def consText (text : List Char) (segments : List Segment) : List Segment :=
  text.foldr consChar segments

-- One backslash before braces makes them text, two pairs of them at most; of several
-- backslashes before braces all but one are text.
def escaped? (cs : List Char) : Option (List Char × List Char) :=
  match cs with
  | '\\' :: '\x7b' :: '\x7b' :: '\x7b' :: '\x7b' :: rest => some (List.replicate 4 '\x7b', rest)
  | '\\' :: '\x7b' :: '\x7b' :: rest => some (List.replicate 2 '\x7b', rest)
  | '\\' :: '\\' :: _ =>
    let rest := cs.dropWhile (· == '\\')
    match rest with
    | '\x7b' :: '\x7b' :: _ => some ((cs.takeWhile (· == '\\')).tail, rest)
    | _ => none
  | _ => none

def readSegments : Nat → List Char → Option (List Segment)
  | 0, _ => none
  | _, [] => some []
  | fuel + 1, c :: rest =>
    match escaped? (c :: rest) with
    | some (text, rest) => (readSegments fuel rest).map (consText text)
    | none =>
      match c, rest with
      | '\x7b', '\x7b' :: rest => do
        let (segment, rest) ← readTag rest
        return segment :: (← readSegments fuel rest)
      | _, _ => (readSegments fuel rest).map (consChar c)

def isSpace (c : Char) : Bool := c == ' ' || c == '\t'
def isLineEnd (c : Char) : Bool := c == '\n' || c == '\r'

def opensLine (start : Bool) : Option Segment → Bool
  | none => start
  | some (.text text) =>
    match text.reverse.dropWhile isSpace with
    | [] => start
    | last :: _ => isLineEnd last
  | some _ => false

def endsLine : List Segment → Bool
  | [] => true
  | .text text :: rest =>
    match text.dropWhile isSpace with
    | [] => rest.isEmpty
    | next :: _ => isLineEnd next
  | _ => false

def dropLine (text : List Char) : List Char :=
  match text.dropWhile isSpace with
  | '\r' :: '\n' :: rest => rest
  | '\n' :: rest => rest
  | rest => rest

def dropSpaceBehind (text : List Char) : List Char := (text.reverse.dropWhile isSpace).reverse

-- The segments without the lines of block tags that stand alone. `start` tells whether
-- only `before` comes before the segments, and `cut` whether the tag before them stands
-- alone.
def dropTagLines (start cut : Bool) (before : Option Segment) : List Segment → List Segment
  | [] => []
  | segment :: rest =>
    match segment with
    | .text text =>
      let alone := match rest with
        | tag :: later => tag.ofBlock && opensLine before.isNone (some segment) && endsLine later
        | [] => false
      let text := if cut then dropLine text else text
      let text := if alone then dropSpaceBehind text else text
      .text text :: dropTagLines before.isNone false (some segment) rest
    | tag =>
      let alone := tag.ofBlock && opensLine start before && endsLine rest
      tag :: dropTagLines false alone (some tag) rest

structure Branch where
  helper : String
  args : List Operand
  body : List Node

-- A block that has not been closed: its helper, the nodes before it, its branches so
-- far, and the helper and operands of the branch that is open, unless `otherwise` has
-- come. Nodes and branches are in reverse.
structure Frame where
  helper : String
  outer : List Node
  branches : List Branch
  current : Option (String × List Operand)

namespace Frame

def divide (frame : Frame) (done : List Node) (next : Option (String × List Operand)) :
    Option Frame :=
  frame.current.map fun (helper, args) =>
    { frame with branches := ⟨helper, args, done.reverse⟩ :: frame.branches, current := next }

def closedBranches (frame : Frame) (done : List Node) : List Branch × Option (List Node) :=
  match frame.current with
  | some (helper, args) => (⟨helper, args, done.reverse⟩ :: frame.branches, none)
  | none => (frame.branches, some done.reverse)

def close (frame : Frame) (done : List Node) : List Node :=
  let (branches, last) := frame.closedBranches done
  let block (otherwise : Option (List Node)) (branch : Branch) : Option (List Node) :=
    some [.block branch.helper branch.args branch.body otherwise]
  (branches.foldl block last).getD []

end Frame

-- Here `done` holds the nodes of the innermost open branch, in reverse.
def nest : List Segment → List Frame → List Node → Option (List Node)
  | [], [], done => some done.reverse
  | [], _ :: _, _ => none
  | segment :: rest, frames, done =>
    match segment, frames with
    | .text [], frames => nest rest frames done
    | .text text, frames => nest rest frames (.text (String.ofList text) :: done)
    | .value path, frames => nest rest frames (.value path :: done)
    | .call helper args, frames => nest rest frames (.call helper args :: done)
    | .opening helper args, frames =>
      nest rest (⟨helper, done, [], some (helper, args)⟩ :: frames) []
    | .orElse helper args, frame :: frames => do
      nest rest ((← frame.divide done (some (helper, args))) :: frames) []
    | .otherwise, frame :: frames => do nest rest ((← frame.divide done none) :: frames) []
    | .closing helper, frame :: frames =>
      if frame.helper = helper then nest rest frames (frame.close done ++ frame.outer) else none
    | _, [] => none

def parse (source : String) : Option Template := do
  let segments ← readSegments (source.length + 1) source.toList
  nest (dropTagLines true false none segments) [] []

end ClientPackager.Template
