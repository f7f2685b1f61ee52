import BotTypings.Command.Request

/-! Scripts that let a shell complete the names of the commands. -/
namespace BotTypings.Command

open BotTypings.Text

def commandNames : List String := commands.map (·.1) ++ ["help"]

def Shell.script (shell : Shell) : String :=
  let names := joined " " commandNames
  match shell with
  | bash => "complete -W \"" ++ names ++ "\" tgt\n"
  | elvish => "set edit:completion:arg-completer[tgt] = \x7b|@words| put " ++ names ++ " \x7d\n"
  | fish => "complete -c tgt -f -a \"" ++ names ++ "\"\n"
  | powershell =>
    "Register-ArgumentCompleter -Native -CommandName tgt -ScriptBlock \x7b " ++
      joined ", " (commandNames.map fun name => "'" ++ name ++ "'") ++ " \x7d\n"
  | zsh => "#compdef tgt\n_arguments '1:command:(" ++ names ++ ")'\n"

def usage : String :=
  "TypeScript declarations generator for the Telegram Bot API\n\nUsage: tgt <COMMAND>\n\nCommands:\n" ++
    String.join (commandNames.map fun name => "  " ++ name ++ "\n")

end BotTypings.Command
