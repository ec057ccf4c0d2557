import ClientPackager.Fault

set_option autoImplicit false

namespace ClientPackager.Arguments

inductive Refusal where
  | information
  | invalid
deriving DecidableEq, Repr

def Refusal.status : Refusal → ExitStatus
  | .information => .success
  | .invalid => .invalidInput

inductive Role where
  | flag
  | information
  | value (accepts : String → Bool)

structure Switch where
  name : String
  letter : Option Char
  role : Role

-- Options, at most one argument that is no option, and the names of commands, which
-- take all arguments after them.
structure Level where
  switches : List Switch
  operand : Option (String × (String → Bool))
  commands : List String

-- A value may be attached to its option or come next; it is checked when the argument
-- after it is read, so the first fault is the one that counts.
structure Pending where
  name : String
  accepts : String → Bool
  value : Option String

structure Given where
  values : List (String × String)
  pending : Option Pending

namespace Given

def empty : Given := ⟨[], none⟩

def has (given : Given) (name : String) : Bool := (given.values.lookup name).isSome

def get? (given : Given) (name : String) : Option String := given.values.lookup name

def note (given : Given) (name value : String) : Except Refusal Given :=
  if given.has name then .error .invalid
  else .ok ⟨given.values ++ [(name, value)], none⟩

def settle (given : Given) : Except Refusal Given :=
  match given.pending with
  | none => .ok given
  | some ⟨_, _, none⟩ => .error .invalid
  | some ⟨name, accepts, some value⟩ =>
    if accepts value then given.note name value else .error .invalid

def awaits (given : Given) : Bool := given.pending.any (·.value.isNone)

def supply (given : Given) (value : String) : Given :=
  { given with pending := given.pending.map fun pending => { pending with value := some value } }

def await (given : Given) (name : String) (accepts : String → Bool) (value : Option String) :
    Except Refusal Given := do
  return { ← given.settle with pending := some ⟨name, accepts, value⟩ }

def operand (given : Given) (level : Level) (value : String) : Except Refusal Given :=
  match level.operand with
  | none => .error .invalid
  | some (name, accepts) =>
    if given.pending.any (·.name == name) then .error .invalid
    else if given.has name then .error .invalid
    else given.await name accepts (some value)

def take (given : Given) (switch : Switch) (attached : Option String) : Except Refusal Given := do
  match switch.role, attached with
  | .flag, none => (← given.settle).note switch.name ""
  | .information, none => discard given.settle; throw .information
  | .value accepts, none => given.await switch.name accepts none
  | .value accepts, some value => (← given.await switch.name accepts (some value)).settle
  | _, some _ => throw .invalid

end Given

def readLetters (level : Level) (given : Given) : List Char → Except Refusal Given
  | [] => .ok given
  | letter :: rest => do
    let some switch := level.switches.find? (·.letter == some letter) | throw .invalid
    match switch.role, rest with
    | .value _, '=' :: value => given.take switch (some (String.ofList value))
    | .value _, c :: value => given.take switch (some (String.ofList (c :: value)))
    | _, _ => readLetters level (← given.take switch none) rest

def readName (level : Level) (given : Given) (cs : List Char) : Except Refusal Given := do
  let name := String.ofList (cs.takeWhile (· != '='))
  let attached := match cs.dropWhile (· != '=') with
    | _ :: value => some (String.ofList value)
    | [] => none
  let some switch := level.switches.find? (·.name == name) | throw .invalid
  given.take switch attached

-- After two hyphens every argument is an operand.
def read (level : Level) : Bool → Given → List String →
    Except Refusal (Given × Option (String × List String))
  | _, given, [] => .ok (given, none)
  | true, given, arg :: rest => do read level true (← given.operand level arg) rest
  | false, given, arg :: rest =>
    if !given.awaits && level.commands.contains arg then .ok (given, some (arg, rest))
    else match arg.toList with
      | ['-', '-'] => read level true given rest
      | '-' :: '-' :: name => do read level false (← readName level given name) rest
      | '-' :: letter :: more => do
        read level false (← readLetters level given (letter :: more)) rest
      | _ =>
        if given.awaits then read level false (given.supply arg) rest
        else do read level false (← given.operand level arg) rest

end ClientPackager.Arguments
