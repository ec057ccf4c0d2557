import ClientPackager.Command.Invocation

set_option autoImplicit false

namespace ClientPackager.Completions

def programName : String := "rsocket-export"

def words : List String :=
  let levels := [Invocation.program, Invocation.inspect, Invocation.generate, Invocation.completions]
  let names := levels.flatMap fun level => level.switches.map fun switch => "--" ++ switch.name
  Invocation.commandNames ++ names.eraseDups

def wordList : String := " ".intercalate words

def quoted (word : String) : String := "'" ++ word ++ "'"

def quotedList : String := ", ".intercalate (words.map quoted)

def script : Shell → String
  | .bash => s!"complete -o default -W \"{wordList}\" {programName}\n"
  | .elvish =>
    s!"set edit:completion:arg-completer[{programName}] = \x7b |@words|\n" ++
      s!"  put {wordList}\n\x7d\n"
  | .fish => s!"complete -c {programName} -a \"{wordList}\"\n"
  | .powershell =>
    s!"Register-ArgumentCompleter -Native -CommandName {programName} -ScriptBlock \x7b\n" ++
      "  param($word)\n" ++
      s!"  @({quotedList}) | Where-Object \x7b $_ -like \"$word*\" \x7d\n\x7d\n"
  | .zsh => s!"#compdef {programName}\ncompadd -- {wordList}\n"

end ClientPackager.Completions

namespace ClientPackager

def usage : String :=
  let name := Completions.programName
  let shells := "|".intercalate (Shell.all.map Shell.label)
  "\n".intercalate [
    "Generates npm client packages for RSocket services.",
    "",
    s!"Usage: {name} [OPTIONS] inspect <DOCUMENT> [--alphabetical]",
    s!"       {name} [OPTIONS] generate <DOCUMENT> [--package-name <NAME>] [--version <VERSION>]",
    "         [--description <TEXT>] [--output <DIR> | --archive <FILE>]",
    "         [--no-declarations] [--alphabetical]",
    s!"       {name} [OPTIONS] completions <{shells}>",
    "",
    "Options: [--verbose] [--format <json|text|pretty>] [--config <FILE>] [--help]",
    ""]

end ClientPackager
