import Bootflash.Cli.Misuse

namespace Bootflash.Cli

inductive Shell where
  | bash
  | zsh
  | fish
  | powershell
deriving DecidableEq, Repr

def Shell.name : Shell → String
  | bash => "bash"
  | zsh => "zsh"
  | fish => "fish"
  | powershell => "powershell"

inductive Command where
  | root
  | flash
  | info
  | ports
  | devices
  | help
  | completion
  | completionFor (shell : Shell)
deriving DecidableEq, Repr

namespace Command

def name : Command → String
  | root => "avrflash"
  | flash => "flash"
  | info => "info"
  | ports => "ports"
  | devices => "devices"
  | help => "help"
  | completion => "completion"
  | completionFor shell => shell.name

/-- The words that lead to a command. -/
def path (command : Command) : String :=
  match command with
  | root => "avrflash"
  | completionFor shell => s!"avrflash completion {shell.name}"
  | _ => s!"avrflash {command.name}"

def children : Command → List Command
  | root => [flash, info, ports, devices, help, completion]
  | completion => [completionFor .bash, completionFor .zsh, completionFor .fish, completionFor .powershell]
  | _ => []

/-- Whether a command does something itself, rather than only hold others. -/
def runs : Command → Bool
  | root | completion => false
  | _ => true

/-- Flags that every command takes. -/
def globalFlags : List Flag :=
  [.baud, .noSslVerify, .port, .resetGpio, .url, .username, .verbose]

/-- Flags of a command's own, besides the one that asks for help. -/
def ownFlags : Command → List Flag
  | flash => [.retries]
  | completionFor _ => [.noDescriptions]
  | _ => []

/-- All flags a command understands. -/
def flags (command : Command) : List Flag :=
  .help :: command.ownFlags ++ globalFlags

/-- Whether a word is a flag that hides the word behind it. While the command is still being looked
for, the flag that asks for help is as unknown as any other, and an unknown flag is taken to have a
value. -/
def hidesNext (command : Command) (word : String) : Bool :=
  let known := command.ownFlags ++ globalFlags
  match word.toList with
  | '-' :: '-' :: name =>
    !name.contains '=' && !(known.any fun flag => flag.isSwitch && flag.name == String.ofList name)
  | ['-', c] =>
    c != '=' && c.toNat < 128 && !(known.any fun flag => flag.isSwitch && flag.shorthand? == some c)
  | _ => false

/-- The words that are neither flags nor hidden by one. A flag that hides the last word ends the search. -/
def plainWords (command : Command) : List String → List String
  | [] => []
  | word :: rest =>
    if word = "--" then []
    else if command.hidesNext word then
      match rest with
      | _ :: next :: rest => plainWords command (next :: rest)
      | _ => []
    else if word ≠ "" ∧ word.toList.head? ≠ some '-' then word :: plainWords command rest
    else plainWords command rest

/-- Takes out the first place where a word stands plainly. -/
def without (command : Command) (target : String) : List String → List String
  | [] => []
  | word :: rest =>
    if word = "--" then word :: rest
    else if command.hidesNext word then
      match rest with
      | hidden :: rest => word :: hidden :: without command target rest
      | [] => [word]
    else if word = target ∧ word.toList.head? ≠ some '-' then rest
    else word :: without command target rest

/-- The command below this one that the words name, and the remaining words. -/
def descend? (command : Command) (words : List String) : Option (Command × List String) :=
  match command.plainWords words with
  | [] => none
  | word :: _ => (command.children.find? fun child => child.name == word).map fun child =>
      (child, command.without word words)

/-- Goes down the tree as far as the words lead, at most so many levels. -/
def descend : Nat → Command → List String → Command × List String
  | 0, command, words => (command, words)
  | levels + 1, command, words =>
    match command.descend? words with
    | none => (command, words)
    | some (child, rest) => descend levels child rest

/-- How many levels the tree has below its root. -/
def depth : Nat := 2

/-- The lower case letter a character stands for, as far as commands are concerned. Two capitals
outside the plain alphabet have a plain small letter. -/
def lowerLetter (c : Char) : Char :=
  if c = '\u0130' then 'i' else if c = '\u212A' then 'k' else c.toLower

/-- A word as commands are compared with it. -/
def folded (word : String) : List UInt8 :=
  Text.utf8Bytes (String.ofList (word.toList.map lowerLetter))

/-- One row of the table of distances, from the row above it. `left` is the last distance written,
`corner` the one above it. -/
def distanceRow (b : UInt8) : (text : List UInt8) → (above : List Nat) → (left corner : Nat) → List Nat
  | a :: text, up :: above, left, corner =>
    let here := if a = b then corner else min (min left up) corner + 1
    here :: distanceRow b text above here up
  | _, _, _, _ => []

/-- How many insertions, deletions and replacements of a byte lead from one text to another. -/
def distance (s t : List UInt8) : Nat :=
  let first := List.range' 1 s.length
  let (row, _) := t.foldl (fun (row, n) b => (distanceRow b s row (n + 1) n, n + 1)) (first, 0)
  row.getLast?.getD t.length

/-- The commands a word may have been meant for: close to it in spelling, or beginning with it. The
command that shows help is never suggested. -/
def meant (word : String) : List String :=
  let candidates := root.children.filter (· ≠ help)
  let close := candidates.filter fun command =>
    distance (folded word) (folded command.name) ≤ 2 || (folded word).isPrefixOf (folded command.name)
  close.map name

/-- The command that words lead to, and the words left over. Words that lead nowhere from the root
name no command. -/
def resolve (words : List String) : Except Misuse (Command × List String) :=
  let (command, rest) := descend depth root words
  match command, command.plainWords rest with
  | root, word :: _ => .error (.unknownCommand word root.path (meant word))
  | _, _ => .ok (command, rest)

end Command

end Bootflash.Cli
