import ClientPackager.Fault

set_option autoImplicit false

namespace ClientPackager

inductive OutputFormat where
  | json
  | text
  | pretty
deriving DecidableEq, Repr

namespace OutputFormat

def all : List OutputFormat := [json, text, pretty]

def label : OutputFormat → String
  | json => "json"
  | text => "text"
  | pretty => "pretty"

def parse (name : String) : Outcome OutputFormat :=
  match all.find? fun format => format.label == name.map Char.toLower with
  | some format => .ok format
  | none => .error (.invalidArgument
    s!"invalid output format: '{name}' (expected: json, text, or pretty)")

end OutputFormat

inductive Style where
  | bold
  | dimmed
  | underline
  | struck
  | green
  | yellow
  | cyan
deriving DecidableEq, Repr

namespace Style

def code : Style → String
  | bold => "1"
  | dimmed => "2"
  | underline => "4"
  | struck => "9"
  | green => "32"
  | yellow => "33"
  | cyan => "36"

def reset : List Char := ['\x1b', '[', '0', 'm']

def start (styles : List Style) : List Char :=
  ['\x1b', '['] ++ (";".intercalate (styles.map code)).toList ++ ['m']

-- The text with the styles begun anew wherever the text ends all styles.
def resumed (again : List Char) : List Char → List Char
  | '\x1b' :: '[' :: '0' :: 'm' :: rest => reset ++ again ++ resumed again rest
  | c :: rest => c :: resumed again rest
  | [] => []

def apply (styling : Bool) (styles : List Style) (text : String) : String :=
  if styling then
    String.ofList (start styles ++ resumed (start styles) text.toList ++ reset)
  else text

end Style

def padEnd (width : Nat) (text : String) : String :=
  String.ofList (text.toList.rightpad width ' ')

def heading (styling : Bool) (text : String) : String := Style.apply styling [.bold, .underline] text

def field (styling : Bool) (label value : String) : String :=
  Style.apply styling [.dimmed] (padEnd 12 label) ++ " " ++ value

def done (styling : Bool) (text : String) : String := Style.apply styling [.bold, .green] "✓" ++ " " ++ text

end ClientPackager
