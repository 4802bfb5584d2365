/-! Options on a command line. They may stand anywhere among the operands, up to
two dashes that end them; short ones may be joined behind one dash. -/
namespace DesignTokens.CommandLine

inductive Switch where
  | path
  | output
  | save
  | config
  | unresolved
  | strict
  | verbose
  | scope
  | type
  | help
deriving DecidableEq

namespace Switch

def longName : Switch → String
  | path => "--path"
  | output => "--output"
  | save => "--save"
  | config => "--config"
  | unresolved => "--unresolved"
  | strict => "--strict"
  | verbose => "--verbose"
  | scope => "--scope"
  | type => "--type"
  | help => "--help"

def shortName? : Switch → Option Char
  | path => some 'p'
  | output => some 'o'
  | save => some 's'
  | unresolved => some 'u'
  | verbose => some 'v'
  | type => some 't'
  | config | strict | scope | help => none

def takesValue : Switch → Bool
  | path | output | save | config | scope | type => true
  | unresolved | strict | verbose | help => false

def named? (known : List Switch) (name : String) : Option Switch :=
  known.find? (·.longName = name)

def short? (known : List Switch) (c : Char) : Option Switch :=
  known.find? (·.shortName? = some c)

end Switch

/-- A single dash is no option. -/
def isOption (word : String) : Bool := word.toList.head? = some '-' ∧ word ≠ "-"

/-- What was given, in order. A switch without a value comes with an empty one. -/
structure Given where
  switches : List (Switch × String) := []
  operands : List String := []
deriving DecidableEq

namespace Given

def addSwitches (given : Given) (more : List (Switch × String)) : Given :=
  { given with switches := more ++ given.switches }

def addOperand (given : Given) (operand : String) : Given :=
  { given with operands := operand :: given.operands }

def has (given : Given) (switch : Switch) : Bool := given.switches.any (·.1 = switch)

def all (given : Given) (switch : Switch) : List String :=
  (given.switches.filter (·.1 = switch)).map Prod.snd

/-- The value given last counts. -/
def last? (given : Given) (switch : Switch) : Option String := (given.all switch).getLast?

/-- The short switches behind one dash, and the last of them if its value is still
to come. -/
def cluster (known : List Switch) : List Char → Option (List (Switch × String) × Option Switch)
  | [] => some ([], none)
  | c :: rest => do
    let switch ← Switch.short? known c
    if !switch.takesValue then
      let (more, open?) ← cluster known rest
      return ((switch, "") :: more, open?)
    else if rest = [] then return ([], some switch)
    else return ([(switch, String.ofList rest)], none)

/-- One word that starts with a dash, and the switch whose value is still to come. -/
def switchWord (known : List Switch) (word : List Char) :
    Option (List (Switch × String) × Option Switch) := do
  let name := word.takeWhile (· ≠ '=')
  let value? := (word.drop name.length).tail?
  match Switch.named? known (String.ofList name), value? with
  | some switch, some value =>
    if switch.takesValue then some ([(switch, String.ofList value)], none) else none
  | some switch, none =>
    if switch.takesValue then some ([], some switch) else some ([(switch, "")], none)
  | none, _ => if ['-', '-'].isPrefixOf word then none else cluster known (word.drop 1)

/-- Nothing if a switch is not known, lacks its value or has one too many. -/
def ofWords? (known : List Switch) : List String → Option Given
  | [] => some {}
  | word :: rest =>
    if word = "--" then some { operands := rest }
    else if isOption word then
      match switchWord known word.toList, rest with
      | some (switches, none), rest => (ofWords? known rest).map (·.addSwitches switches)
      | some (switches, some switch), value :: rest =>
        (ofWords? known rest).map (·.addSwitches (switches ++ [(switch, value)]))
      | _, _ => none
    else (ofWords? known rest).map (·.addOperand word)

end Given

end DesignTokens.CommandLine
