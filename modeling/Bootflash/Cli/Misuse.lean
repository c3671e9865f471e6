import Bootflash.Cli.Flag
import Bootflash.Text.Quoted

namespace Bootflash.Cli

inductive Misuse where
  /-- A word that names no command, where it stands, and the commands it may have been meant for. -/
  | unknownCommand (word path : String) (meant : List String)
  | wrongCount (wanted given : Nat)
  | malformedFlag (word : String)
  | unknownFlag (name : String)
  /-- A letter that names no flag, and the letters from it on. -/
  | unknownShorthand (letter : Char) (letters : String)
  | missingValue (name : String)
  | missingShorthandValue (letter : Char) (letters : String)
  | badNumber (flag : Flag) (value : String) (refusal : Text.NumberRefusal)
  | badSwitch (flag : Flag) (value : String)
deriving DecidableEq, Repr

namespace Misuse

/-- The letter as it is shown. Only its first byte counts, and every other character begins like
this one does when that byte is taken for a character. -/
def shownLetter (letter : Char) : Char :=
  if letter.toNat < 128 then letter else '\u00C3'

def badValue (flag : Flag) (value cause : String) : String :=
  s!"invalid argument {Text.quoteText value} for {Text.quoteText flag.title} flag: {cause}"

def message : Misuse → String
  | unknownCommand word path meant =>
    let hint :=
      if meant.isEmpty then ""
      else "\n\nDid you mean this?\n" ++ String.join (meant.map fun m => s!"\t{m}\n")
    s!"unknown command {Text.quoteText word} for {Text.quoteText path}" ++ hint
  | wrongCount wanted given => s!"accepts {wanted} arg(s), received {given}"
  | malformedFlag word => s!"bad flag syntax: {word}"
  | unknownFlag name => s!"unknown flag: --{name}"
  | unknownShorthand letter letters =>
    s!"unknown shorthand flag: {Text.quoteChar (shownLetter letter)} in -{letters}"
  | missingValue name => s!"flag needs an argument: --{name}"
  | missingShorthandValue letter letters =>
    s!"flag needs an argument: {Text.quoteChar (shownLetter letter)} in -{letters}"
  | badNumber flag value refusal =>
    badValue flag value s!"strconv.ParseInt: parsing {Text.quoteText value}: {refusal.message}"
  | badSwitch flag value =>
    badValue flag value s!"strconv.ParseBool: parsing {Text.quoteText value}: invalid syntax"

end Misuse

end Bootflash.Cli
