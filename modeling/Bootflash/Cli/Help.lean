import Bootflash.Cli.Command

namespace Bootflash.Cli

def lines (texts : List String) : String :=
  String.intercalate "\n" texts

namespace Flag

/-- What a flag is for. -/
def purpose (command : Command) : Flag → String
  | baud => "Baud rate (serial only)"
  | help => s!"help for {command.name}"
  | noDescriptions => "disable completion descriptions"
  | noSslVerify => "Skip TLS certificate verification (wss:// only)"
  | port => "Serial port device"
  | resetGpio => "GPIO wired to the chip's reset line (0 for none)"
  | retries => "Transport faults tolerated per page"
  | url => "WebSocket bridge URL (ws:// or wss://)"
  | username => "Username for HTTP Basic auth"
  | verbose => "Log wire traffic"

/-- The flag with the kind of value it takes. -/
def column (flag : Flag) : String :=
  let title := match flag.shorthand? with
    | some _ => "  " ++ flag.title
    | none => "      " ++ flag.title
  match flag.initial with
  | .text _ => title ++ " string"
  | .number _ => title ++ " int"
  | .switch _ => title

/-- The value a flag has when it is not given, unless that is nothing. -/
def defaultNote (flag : Flag) : String :=
  match flag.initial with
  | .text value => if value = "" then "" else s!" (default {Text.quoteText value})"
  | .number value => if value = 0 then "" else s!" (default {value})"
  | .switch value => if value then " (default true)" else ""

/-- A list of flags, one line each, their purposes in one column. -/
def table (command : Command) (flags : List Flag) : String :=
  let width := (flags.map fun flag => flag.column.length).foldl max 0
  lines (flags.map fun flag =>
    Text.padRight width flag.column ++ "   " ++ flag.purpose command ++ flag.defaultNote)

end Flag

namespace Command

/-- One line about a command. -/
def short : Command → String
  | root => "Program AVR chips through their serial bootloader"
  | flash => "Erase the chip and program a raw binary image"
  | info => "Identify the bootloader and show the chip's fuses"
  | ports => "List serial ports"
  | devices => "List the chips avrflash knows"
  | help => "Help about any command"
  | completion => "Generate the autocompletion script for the specified shell"
  | completionFor shell => s!"Generate the autocompletion script for {shell.name}"

/-- How to install a shell's completions. -/
def completionGuide : Shell → String
  | .bash => lines
      ["Generate the autocompletion script for the bash shell.", "",
        "This script depends on the 'bash-completion' package.",
        "If it is not installed already, you can install it via your OS's package manager.", "",
        "To load completions in your current shell session:", "",
        "\tsource <(avrflash completion bash)", "",
        "To load completions for every new session, execute once:", "",
        "#### Linux:", "",
        "\tavrflash completion bash > /etc/bash_completion.d/avrflash", "",
        "#### macOS:", "",
        "\tavrflash completion bash > $(brew --prefix)/etc/bash_completion.d/avrflash", "",
        "You will need to start a new shell for this setup to take effect."]
  | .zsh => lines
      ["Generate the autocompletion script for the zsh shell.", "",
        "If shell completion is not already enabled in your environment you will need",
        "to enable it.  You can execute the following once:", "",
        "\techo \"autoload -U compinit; compinit\" >> ~/.zshrc", "",
        "To load completions in your current shell session:", "",
        "\tsource <(avrflash completion zsh)", "",
        "To load completions for every new session, execute once:", "",
        "#### Linux:", "",
        "\tavrflash completion zsh > \"$\x7bfpath[1]\x7d/_avrflash\"", "",
        "#### macOS:", "",
        "\tavrflash completion zsh > $(brew --prefix)/share/zsh/site-functions/_avrflash", "",
        "You will need to start a new shell for this setup to take effect."]
  | .fish => lines
      ["Generate the autocompletion script for the fish shell.", "",
        "To load completions in your current shell session:", "",
        "\tavrflash completion fish | source", "",
        "To load completions for every new session, execute once:", "",
        "\tavrflash completion fish > ~/.config/fish/completions/avrflash.fish", "",
        "You will need to start a new shell for this setup to take effect."]
  | .powershell => lines
      ["Generate the autocompletion script for powershell.", "",
        "To load completions in your current shell session:", "",
        "\tavrflash completion powershell | Out-String | Invoke-Expression", "",
        "To load completions for every new session, add the output of the above command",
        "to your powershell profile."]

/-- What stands at the head of a command's help. -/
def description : Command → String
  | root => lines
      ["avrflash talks to the bootloader resident on an AVR chip and rewrites",
        "its application flash.", "",
        "Connection modes:",
        "  Serial:    --port /dev/ttyUSB0 [--baud 19200]",
        "  WebSocket: --url ws://host/path [--username user]", "",
        "The board has to be running its bootloader. Either put it there by hand or",
        "wire its reset line to a GPIO and pass --reset-gpio.", "",
        "For WebSocket authentication the password is read from the AVRFLASH_PASSWORD",
        "environment variable."]
  | help => lines
      ["Help provides help for any command in the application.",
        "Simply type avrflash help [path to command] for full details."]
  | completion => lines
      ["Generate the autocompletion script for avrflash for the specified shell.",
        "See each sub-command's help for details on how to use the generated script."]
  | completionFor shell => completionGuide shell
  | command => command.short

/-- What a command is given besides flags. -/
def operands : Command → String
  | flash => " <image.bin>"
  | help => " [command]"
  | _ => ""

/-- Whether the usage line leaves the flags unmentioned. -/
def hidesFlags : Command → Bool
  | completionFor .bash => true
  | _ => false

def usageLine (command : Command) : String :=
  command.path ++ command.operands ++ if command.hidesFlags then "" else " [flags]"

/-- The commands below one, in alphabetical order. -/
def listing (command : Command) : List Command :=
  command.children.mergeSort fun a b => a.name ≤ b.name

/-- The sections of a usage text. -/
def sections (command : Command) : List String :=
  let usage := lines <| ["Usage:"] ++
    (if command.runs then ["  " ++ command.usageLine] else []) ++
    (if command.children.isEmpty then [] else [s!"  {command.path} [command]"])
  let commands := if command.children.isEmpty then [] else
    [lines ("Available Commands:" :: command.listing.map fun child =>
      s!"  {Text.padRight 11 child.name} {child.short}")]
  let own := if command = root then command.flags else .help :: command.ownFlags
  let sorted := own.mergeSort fun a b => a.name ≤ b.name
  let flags := ["Flags:\n" ++ Flag.table command sorted]
  let shared := if command = root then [] else ["Global Flags:\n" ++ Flag.table command globalFlags]
  let hint := if command.children.isEmpty then [] else
    [s!"Use \"{command.path} [command] --help\" for more information about a command."]
  usage :: commands ++ flags ++ shared ++ hint

/-- How a command is used. -/
def usage (command : Command) : String :=
  String.intercalate "\n\n" command.sections ++ "\n"

/-- All there is to say about a command. -/
def helpText (command : Command) : String :=
  command.description ++ "\n\n" ++ command.usage

end Command

end Bootflash.Cli
