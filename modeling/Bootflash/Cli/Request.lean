import Bootflash.Cli.Command

namespace Bootflash.Cli

namespace Settings

/-- Sets a flag to a value given as text. -/
def assign (settings : Settings) (flag : Flag) (value : String) : Except Misuse Settings :=
  let number (set : Int → Settings) : Except Misuse Settings :=
    match Text.readInt value with
    | .ok n => .ok (set n)
    | .error refusal => .error (.badNumber flag value refusal)
  let switch (set : Bool → Settings) : Except Misuse Settings :=
    match Text.readSwitch? value with
    | some b => .ok (set b)
    | none => .error (.badSwitch flag value)
  match flag with
  | .baud => number fun baud => { settings with baud }
  | .help => switch fun help => { settings with help }
  | .noDescriptions => switch fun noDescriptions => { settings with noDescriptions }
  | .noSslVerify => switch fun noSslVerify => { settings with noSslVerify }
  | .port => .ok { settings with port := value }
  | .resetGpio => number fun resetGpio => { settings with resetGpio }
  | .retries => number fun retries => { settings with retries }
  | .url => .ok { settings with url := value }
  | .username => .ok { settings with username := value }
  | .verbose => switch fun verbose => { settings with verbose }

end Settings

/-- What a word with flags in it comes to. -/
inductive FlagReading where
  | done (settings : Settings)
  /-- The value of a flag is in the next word; without one, the line is misused. -/
  | awaits (settings : Settings) (flag : Flag) (otherwise : Misuse)

namespace Command

/-- Reads a flag given by its name, behind the two dashes of a word. -/
def readNamed (command : Command) (word : String) (settings : Settings)
    (text : List Char) : Except Misuse FlagReading := do
  let name := String.ofList (text.takeWhile (· ≠ '='))
  if name = "" ∨ text.head? = some '-' then throw (.malformedFlag word)
  match command.flags.find? fun flag => flag.name == name with
  | none => throw (.unknownFlag name)
  | some flag =>
    match text.dropWhile (· ≠ '=') with
    | _ :: value => return .done (← settings.assign flag (String.ofList value))
    | [] =>
      if flag.isSwitch then return .done (← settings.assign flag "true")
      else return .awaits settings flag (.missingValue name)

/-- Reads flags given by their letters, behind the dash of a word. -/
def readLetters (command : Command) : List Char → Settings → Except Misuse FlagReading
  | [], settings => return .done settings
  | letter :: rest, settings => do
    let letters := String.ofList (letter :: rest)
    if "test.".isPrefixOf letters then return .done settings
    match command.flags.find? fun flag => flag.shorthand? == some letter with
    | none => throw (.unknownShorthand letter letters)
    | some flag =>
      match rest with
      | '=' :: c :: value => return .done (← settings.assign flag (String.ofList (c :: value)))
      | _ =>
        if flag.isSwitch then readLetters command rest (← settings.assign flag "true")
        else if rest.isEmpty then return .awaits settings flag (.missingShorthandValue letter letters)
        else return .done (← settings.assign flag (String.ofList rest))

/-- Reads the words behind a command: the flags go into the settings, the other words are the operands. -/
def readWords (command : Command) : List String → Settings → Except Misuse (Settings × List String)
  | [], settings => return (settings, [])
  | word :: rest, settings => do
    let reading ← match word.toList with
      | ['-', '-'] => return (settings, rest)
      | '-' :: '-' :: text => command.readNamed word settings text
      | '-' :: c :: text => command.readLetters (c :: text) settings
      | _ =>
        let (settings, operands) ← readWords command rest settings
        return (settings, word :: operands)
    match reading with
    | .done settings => readWords command rest settings
    | .awaits settings flag otherwise =>
      match rest with
      | [] => throw otherwise
      | value :: rest => readWords command rest (← settings.assign flag value)

/-- Checks how many operands a command is given. -/
def checkOperands (command : Command) (operands : List String) : Except Misuse Unit :=
  match command with
  | root | help => .ok ()
  | flash => if operands.length = 1 then .ok () else .error (.wrongCount 1 operands.length)
  | _ =>
    match operands with
    | [] => .ok ()
    | word :: _ => .error (.unknownCommand word command.path [])

end Command

/-- What is asked for. -/
inductive Request where
  | explain (command : Command)
  | unknownTopic (words : List String)
  | program (path : String)
  | inspect
  | listPorts
  | listDevices
  /-- A shell's completions. The library has none to print. -/
  | script (shell : Shell)
deriving DecidableEq, Repr

/-- A request, the settings it comes with, and whether the wire traffic is to be logged. -/
structure Order where
  request : Request
  settings : Settings
  verbose : Bool
deriving DecidableEq, Repr

/-- What a command that runs does with its operands. -/
def Command.request (command : Command) (operands : List String) : Request :=
  match command with
  | .root | .completion => .explain command
  | .flash => .program (operands.headD "")
  | .info => .inspect
  | .ports => .listPorts
  | .devices => .listDevices
  | .help =>
    match Command.resolve operands with
    | .ok (topic, _) => .explain topic
    | .error _ => .unknownTopic operands
  | .completionFor shell => .script shell

/-- Reads a command line. Asking for help comes before the check of the operands. -/
def Order.ofWords (words : List String) : Except Misuse Order := do
  let (command, rest) ← Command.resolve words
  let (settings, operands) ← command.readWords rest .initial
  if settings.help || !command.runs then return ⟨.explain command, settings, false⟩
  command.checkOperands operands
  return ⟨command.request operands, settings, settings.verbose⟩

end Bootflash.Cli
