import ClientPackager.Command.Arguments

set_option autoImplicit false

namespace ClientPackager

inductive Shell where
  | bash
  | elvish
  | fish
  | powershell
  | zsh
deriving DecidableEq, Repr

namespace Shell

def all : List Shell := [bash, elvish, fish, powershell, zsh]

def label : Shell → String
  | bash => "bash"
  | elvish => "elvish"
  | fish => "fish"
  | powershell => "powershell"
  | zsh => "zsh"

def ofLabel? (text : String) : Option Shell := all.find? fun shell => shell.label == text

end Shell

structure GenerateChoices where
  document : String
  packageName : Option String
  version : Option String
  description : Option String
  output : Option String
  archive : Option String
  noDeclarations : Bool
  alphabetical : Bool
deriving DecidableEq, Repr

inductive Command where
  | inspect (document : String) (alphabetical : Bool)
  | generate (choices : GenerateChoices)
  | completions (shell : Shell)
deriving DecidableEq, Repr

structure Invocation where
  command : Command
  verbose : Bool
  format : String
  config : Option String
deriving DecidableEq, Repr

namespace Invocation

open Arguments

def anyText : String → Bool := fun _ => true

def isPath : String → Bool := fun text => text ≠ ""

def common : List Switch := [
  ⟨"verbose", some 'v', .flag⟩,
  ⟨"format", none, .value anyText⟩,
  ⟨"config", none, .value isPath⟩,
  ⟨"help", some 'h', .information⟩]

def commandNames : List String := ["inspect", "generate", "completions", "help"]

def program : Level := {
  switches := common ++ [⟨"version", some 'V', .information⟩]
  operand := none
  commands := commandNames }

def inspect : Level := {
  switches := common ++ [⟨"alphabetical", none, .flag⟩]
  operand := some ("document", isPath)
  commands := [] }

def generate : Level := {
  switches := common ++ [
    ⟨"package-name", none, .value anyText⟩,
    ⟨"version", none, .value anyText⟩,
    ⟨"description", none, .value anyText⟩,
    ⟨"output", some 'o', .value isPath⟩,
    ⟨"archive", none, .value isPath⟩,
    ⟨"no-declarations", none, .flag⟩,
    ⟨"alphabetical", none, .flag⟩]
  operand := some ("document", isPath)
  commands := [] }

def completions : Level := {
  switches := common
  operand := some ("shell", fun text => (Shell.ofLabel? text).isSome)
  commands := [] }

def readAll (level : Level) (args : List String) : Except Refusal Given := do
  let (given, _) ← Arguments.read level false .empty args
  given.settle

def need {α : Type} : Option α → Except Refusal α
  | some value => .ok value
  | none => .error .invalid

def generateCommand (given : Given) : Except Refusal Command := do
  let document ← need (given.get? "document")
  if given.has "output" && given.has "archive" then throw .invalid
  return .generate {
    document := document
    packageName := given.get? "package-name"
    version := given.get? "version"
    description := given.get? "description"
    output := given.get? "output"
    archive := given.get? "archive"
    noDeclarations := given.has "no-declarations"
    alphabetical := given.has "alphabetical" }

def readCommand (name : String) (args : List String) : Except Refusal (Command × Given) := do
  if name = "inspect" then
    let given ← readAll inspect args
    return (.inspect (← need (given.get? "document")) (given.has "alphabetical"), given)
  else if name = "generate" then
    let given ← readAll generate args
    return (← generateCommand given, given)
  else
    let given ← readAll completions args
    return (.completions (← need ((given.get? "shell").bind Shell.ofLabel?)), given)

def helpOn : List String → Refusal
  | [] => .information
  | [name] => if commandNames.contains name then .information else .invalid
  | _ => .invalid

-- An option given before the command and after it has the value given after it.
def parse (args : List String) : Except Refusal Invocation := do
  let (before, command) ← Arguments.read program false .empty args
  match command with
  | none => throw .invalid
  | some ("help", names) => throw (helpOn names)
  | some (name, rest) =>
    let (command, after) ← readCommand name rest
    let before ← before.settle
    return {
      command := command
      verbose := before.has "verbose" || after.has "verbose"
      format := (after.get? "format" <|> before.get? "format").getD "pretty"
      config := after.get? "config" <|> before.get? "config" }

end Invocation
end ClientPackager
