import Bootflash.Microcontroller
import Bootflash.Text.Integer

namespace Bootflash.Cli

inductive Flag where
  | baud
  | help
  | noDescriptions
  | noSslVerify
  | port
  | resetGpio
  | retries
  | url
  | username
  | verbose
deriving DecidableEq, Repr

inductive FlagValue where
  | text (value : String)
  | number (value : Int)
  | switch (value : Bool)
deriving DecidableEq, Repr

/-- What the flags say. -/
structure Settings where
  baud : Int
  help : Bool
  noDescriptions : Bool
  noSslVerify : Bool
  port : String
  resetGpio : Int
  retries : Int
  url : String
  username : String
  verbose : Bool
deriving DecidableEq, Repr

namespace Settings

/-- The settings without any flag. -/
def initial : Settings :=
  { baud := Config.defaultBaud, help := false, noDescriptions := false, noSslVerify := false, port := Config.defaultTty,
    resetGpio := 0, retries := defaultRetries, url := "", username := "", verbose := false }

/-- What a flag is set to. -/
def value (settings : Settings) : Flag → FlagValue
  | .baud => .number settings.baud
  | .help => .switch settings.help
  | .noDescriptions => .switch settings.noDescriptions
  | .noSslVerify => .switch settings.noSslVerify
  | .port => .text settings.port
  | .resetGpio => .number settings.resetGpio
  | .retries => .number settings.retries
  | .url => .text settings.url
  | .username => .text settings.username
  | .verbose => .switch settings.verbose

/-- The configuration that reaches the chip. -/
def config (settings : Settings) (password : String) (maxRetries : Int) : Config :=
  { resetPin := settings.resetGpio, baud := settings.baud, tty := settings.port, bridgeUrl := settings.url,
    login := ⟨settings.username, password, settings.noSslVerify⟩, maxRetries }

end Settings

namespace Flag

def name : Flag → String
  | baud => "baud"
  | help => "help"
  | noDescriptions => "no-descriptions"
  | noSslVerify => "no-ssl-verify"
  | port => "port"
  | resetGpio => "reset-gpio"
  | retries => "retries"
  | url => "url"
  | username => "username"
  | verbose => "verbose"

def shorthand? : Flag → Option Char
  | baud => some 'b'
  | help => some 'h'
  | port => some 'p'
  | url => some 'u'
  | verbose => some 'v'
  | noDescriptions | noSslVerify | resetGpio | retries | username => none

/-- The value a flag has when it is not given. -/
def initial (flag : Flag) : FlagValue :=
  Settings.initial.value flag

/-- Whether a flag stands alone, without a value. -/
def isSwitch (flag : Flag) : Bool :=
  match flag.initial with
  | .switch _ => true
  | .text _ | .number _ => false

/-- The flag as messages name it. -/
def title (flag : Flag) : String :=
  match flag.shorthand? with
  | some c => s!"-{c}, --{flag.name}"
  | none => s!"--{flag.name}"

end Flag

end Bootflash.Cli
