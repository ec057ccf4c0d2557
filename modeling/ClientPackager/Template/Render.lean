import ClientPackager.Fault
import ClientPackager.Json.Number
import ClientPackager.Json.Printer
import ClientPackager.Template.Basic

set_option autoImplicit false

namespace ClientPackager.Template

-- Nothing is escaped. A field that is missing must not be written or walked through;
-- whether it is there may be asked.
inductive Defect where
  | malformed
  | missing (path : FieldPath)
  | notAnIndex (step : String)
  | unknownHelper (name : String)
  | wrongArguments (helper : String)
  | unknownTemplate
deriving DecidableEq, Repr

def Defect.reason : Defect → String
  | .malformed => "the source is malformed"
  | .missing path => "no value for " ++ ".".intercalate path
  | .notAnIndex step => s!"no index of an array: {step}"
  | .unknownHelper name => s!"no helper {name}"
  | .wrongArguments helper => s!"wrong arguments for {helper}"
  | .unknownTemplate => "no such template"

def index? (step : String) : Option Nat := do
  let digits := match step.toList with
    | '+' :: rest => rest
    | cs => cs
  guard (digits ≠ [] && digits.all Char.isDigit)
  let index := Decimal.natAfter 0 digits
  if index < 1 <<< 64 then some index else none

def step (name : String) : Json → Except Defect (Option Json)
  | .object members => .ok (members.lookup name)
  | .array items =>
    match index? name with
    | some index => .ok items[index]?
    | none => .error (.notAnIndex name)
  | _ => .ok none

def find : FieldPath → Json → Except Defect (Option Json)
  | [], value => .ok (some value)
  | name :: path, value =>
    match step name value with
    | .ok (some value) => find path value
    | .ok none => .ok none
    | .error defect => .error defect

def Operand.eval (context : Json) : Operand → Except Defect (Option Json)
  | .literal value => .ok (some value)
  | .field path => find path context

def holds : Json → Bool
  | .bool value => value
  | .number spelling => (Json.Number.ofSpelling? spelling).any Json.Number.isTruthy
  | .string text => text ≠ ""
  | .array items => !items.isEmpty
  | .object members => !members.isEmpty
  | .null | .undecodable => false

def isTrue (value : Option Json) : Bool := value.any holds

mutual
def write : Json → String
  | .null | .undecodable => ""
  | .bool true => "true"
  | .bool false => "false"
  | .number spelling => Json.Number.textOf spelling
  | .string text => text
  | .array items => "[" ++ writeItems items ++ "]"
  | .object _ => "[object]"
def writeItems : List Json → String
  | [] => ""
  | [item] => write item
  | item :: next :: rest => write item ++ ", " ++ writeItems (next :: rest)
end

def sizeOf : Json → Nat
  | .array items => items.length
  | .object members => members.length
  | .string text => text.utf8ByteSize
  | _ => 0

def order? : Json → Json → Option Ordering
  | .number a, .number b => do
    return (← Json.Number.ofSpelling? a).order (← Json.Number.ofSpelling? b)
  | .string a, .string b => some (compare a b)
  | .bool a, .bool b => some (compare a b)
  | _, _ => none

def compared? (helper : String) (a b : Json) : Option Bool :=
  if helper = "eq" then some (a.normal.compact = b.normal.compact)
  else if helper = "ne" then some (a.normal.compact ≠ b.normal.compact)
  else if helper = "gt" then some ((order? a b).any (·.isGT))
  else if helper = "gte" then some ((order? a b).any (·.isGE))
  else if helper = "lt" then some ((order? a b).any (·.isLT))
  else if helper = "lte" then some ((order? a b).any (·.isLE))
  else none

def lookup : Json → Json → Option Json
  | .array items, .number spelling =>
    match Json.Number.ofSpelling? spelling with
    | some (.integer n) => if 0 ≤ n then items[n.toNat]? else none
    | _ => none
  | .object members, .string name => members.lookup name
  | _, _ => none

def changed? (helper : String) (value : Json) : Option Json :=
  if helper = "json" then some (.string value.normal.compact)
  else if helper = "len" then some (.nat (sizeOf value))
  else if helper = "not" then some (.bool !holds value)
  else none

def result? (helper : String) : List (Option Json) → Option Json
  | some a :: some b :: _ =>
    if helper = "lookup" then lookup a b
    else (changed? helper a).or ((compared? helper a b).map .bool)
  | some a :: _ => changed? helper a
  | _ => none

def callHelper (helper : String) (args : List (Option Json)) : Except Defect String :=
  if helper = "and" then .ok (write (.bool (args.all isTrue)))
  else if helper = "or" then .ok (write (.bool (args.any isTrue)))
  else if helper = "raw" || helper = "log" then .ok ""
  else if !helpers.contains helper then .error (.unknownHelper helper)
  else if args.isEmpty then .error (.wrongArguments helper)
  else if helper = "if" || helper = "unless" || helper = "each" then .ok ""
  else if helper = "with" && isTrue (args.headD none) then .ok ""
  else match result? helper args with
    | some value => .ok (write value)
    | none => .error (.wrongArguments helper)

def itemsOf : Json → Option (List Json)
  | .array items => some items
  | .object members => some ((members.mergeSort fun a b => a.1 ≤ b.1).map (·.2))
  | _ => none

mutual
def renderNode (context : Json) : Node → Except Defect String
  | .text text => .ok text
  | .value path => do
    match ← find path context with
    | some value => return write value
    | none => throw (.missing path)
  | .call helper args => do callHelper helper (← args.mapM (·.eval context))
  | .block helper args body otherwise => do
    let values ← args.mapM (·.eval context)
    let instead := match otherwise with
      | some nodes => renderNodes context nodes
      | none => .ok ""
    if helper = "raw" then renderNodes context body
    else match values with
      | [] => callHelper helper []
      | value :: _ =>
        if helper = "if" then if isTrue value then renderNodes context body else instead
        else if helper = "unless" then if isTrue value then instead else renderNodes context body
        else if helper = "each" then
          match value.bind itemsOf, otherwise with
          | some [], _ => instead
          | some items, _ => do
            let texts ← items.mapM fun item => renderNodes item body
            return String.join texts
          | none, some _ => instead
          | none, none => throw (.wrongArguments helper)
        else if helper = "with" then
          match value, otherwise with
          | some value, some _ => if holds value then renderNodes value body else instead
          | some value, none =>
            if holds value then renderNodes value body else throw (.wrongArguments helper)
          | none, some _ => instead
          | none, none => throw (.wrongArguments helper)
        else callHelper helper values
def renderNodes (context : Json) : List Node → Except Defect String
  | [] => .ok ""
  | node :: rest => do
    let text ← renderNode context node
    let later ← renderNodes context rest
    return text ++ later
end

def render (template : Template) (context : Json) : Except Defect String :=
  renderNodes context template

end ClientPackager.Template
