import BusLocator.CommandLine.Grammar
/-!
# Help

One page tells how the command line is written. It is put together from the grammar, so every option
and every command is on it.
-/

namespace BusLocator.CommandLine

def programName : String := "iblauncher"

def programVersion : String := "1.5.3"

def Command.summary : Command → String
  | .status => "Check whether an IntegrationBus installation can be found"
  | .paths => "Show the resolved installation paths"
  | .env => "Print the launch environment for a participant"
  | .resolve => "Resolve placeholders and environment references in a text"
  | .node => "Look up a network node by name"

def OptionName.shown (option : OptionName) : String :=
  let short := match option.short with
    | some c => "-" ++ c.toString ++ ", "
    | none => "    "
  short ++ match option.effect with
    | .fill slot => slot.shown
    | .raise flag => flag.shown

def Command.usage (command : Command) : String :=
  " ".intercalate (["Usage:", programName, command.word, "[OPTIONS]"]
    ++ command.grammar.required.map Slot.shown)

def Command.page (command : Command) : List String :=
  ["", command.summary, command.usage]
    ++ command.grammar.options.map fun option => "  " ++ option.shown

def helpLines : List String :=
  ["Locate an IntegrationBus installation and resolve launch variables", "",
      "Usage: " ++ programName ++ " [OPTIONS] [COMMAND]"]
    ++ topLevel.options.map (fun option => "  " ++ option.shown)
    ++ Command.all.flatMap Command.page

def versionLine : String :=
  programName ++ " " ++ programVersion

end BusLocator.CommandLine
