/-
# Command line arguments

A command line is read from left to right: options of the program, the name of a command, options
and words of the command.  The first fault decides, and so does the first request for help or for
the version.

| written as | is |
| --- | --- |
| `--name value`, `--name=value` | an option with a value |
| `-n value`, `-n=value`, `-nvalue` | the same by its letter |
| `--name` | a flag |
| `--` | the end of the options: what follows are words |

A value that is an argument of its own may not begin with a minus, unless it is a minus alone.  No
option may be given twice, and a path may not be empty.  The settings file may be named before or
after the command; if it is named at both places, the one after the command counts.
-/

import JoinWizard.Gates

namespace JoinWizard
namespace Cli

/-- What an option asks for. -/
inductive OptionKind where
  /-- A value, of any text. -/
  | text
  /-- A value, of a text that is not empty. -/
  | path
  /-- No value. -/
  | flag
  /-- That help is shown, and nothing else done. -/
  | help
  /-- That the version is shown, and nothing else done. -/
  | version
  deriving DecidableEq

/-- An option that may be given.  No flag has a letter. -/
structure OptionSpec where
  name : String
  letter : Option Char := none
  kind : OptionKind

/-- How the reading of arguments ends without a command to run. -/
inductive Ending where
  /-- The arguments are no command line. -/
  | misuse
  | help
  | version
  deriving DecidableEq

/-- The options and words that were given. -/
structure Given where
  /-- The values of options; that of a flag is empty. -/
  options : List (String × String) := []
  words : List String := []

namespace Given

/-- Adds an option. -/
def set (g : Given) (option : OptionSpec) (value : String) : Except Ending Given :=
  if option.kind = .path ∧ value = "" then .error .misuse
  else if (g.options.lookup option.name).isSome then .error .misuse
  else .ok { g with options := g.options ++ [(option.name, value)] }

/-- Adds words; there may be no more than `limit`. -/
def addWords (g : Given) (limit : Nat) (words : List String) : Except Ending Given :=
  if g.words.length + words.length > limit then .error .misuse
  else .ok { g with words := g.words ++ words }

/-- The value of an option. -/
def value? (g : Given) (name : String) : Option String := g.options.lookup name

/-- Whether an option was given. -/
def has (g : Given) (name : String) : Bool := (g.value? name).isSome

end Given

/-- An argument by its form. -/
inductive Argument where
  | endOfOptions
  /-- An option by its name, perhaps with a value after an equals sign. -/
  | named (name : String) (value : Option String)
  /-- An option by its letter, perhaps with a value right behind it. -/
  | lettered (letter : Char) (value : Option String)
  | word (text : String)

namespace Argument

/-- The form of an argument. -/
def ofString (s : String) : Argument :=
  match s.toList with
  | ['-', '-'] => .endOfOptions
  | '-' :: '-' :: r =>
    let value :=
      match r.dropWhile (· ≠ '=') with
      | [] => none
      | _ :: value => some (String.ofList value)
    .named (String.ofList (r.takeWhile (· ≠ '='))) value
  | ['-', letter] => .lettered letter none
  | '-' :: letter :: '=' :: r => .lettered letter (some (String.ofList r))
  | '-' :: letter :: r => .lettered letter (some (String.ofList r))
  | _ => .word s

/-- Whether an argument may be the value of the option before it. -/
def isWord (s : String) : Bool :=
  match ofString s with
  | .word _ => true
  | _ => false

end Argument

/-- Takes in an option: with the value attached to it, or else with that of the next argument.  The
arguments that are left are given back. -/
def readOption (option : OptionSpec) (attached : Option String) (rest : List String) (g : Given) :
    Except Ending (Given × List String) :=
  match option.kind, attached, rest with
  | .help, none, _ => .error .help
  | .version, none, _ => .error .version
  | .flag, none, rest => return (← g.set option "", rest)
  | .flag, some _, _ | .help, some _, _ | .version, some _, _ => .error .misuse
  | _, some value, rest => return (← g.set option value, rest)
  | _, none, [] => .error .misuse
  | _, none, value :: rest =>
    if Argument.isWord value then return (← g.set option value, rest) else .error .misuse

/-- What follows the letter of an option that has no value. -/
def endsAtLetter (option : OptionSpec) (attached : Option String) : Option String :=
  if option.kind = .help ∨ option.kind = .version then none else attached

/-- Reads options up to the first word; the arguments are less than `fuel`. -/
def readOptions (specs : List OptionSpec) :
    Nat → List String → Given → Except Ending (Given × List String)
  | 0, _, _ => .error .misuse
  | _, [], g => .ok (g, [])
  | fuel + 1, arg :: rest, g =>
    match Argument.ofString arg with
    | .endOfOptions | .word _ => .ok (g, arg :: rest)
    | .named name value =>
      match specs.find? (·.name = name) with
      | none => .error .misuse
      | some option => do
        let (g, rest) ← readOption option value rest g
        readOptions specs fuel rest g
    | .lettered letter value =>
      match specs.find? (·.letter = some letter) with
      | none => .error .misuse
      | some option => do
        let (g, rest) ← readOption option (endsAtLetter option value) rest g
        readOptions specs fuel rest g

/-- Reads the options and words of a command, with at most `limit` words; the arguments are less
than `fuel`. -/
def readCommand (specs : List OptionSpec) (limit : Nat) :
    Nat → List String → Given → Except Ending Given
  | 0, _, _ => .error .misuse
  | fuel + 1, args, g => do
    match ← readOptions specs (args.length + 1) args g with
    | (g, []) => return g
    | (g, arg :: rest) =>
      match Argument.ofString arg with
      | .word text => readCommand specs limit fuel rest (← g.addWords limit [text])
      | _ => g.addWords limit rest

/-- What `inspect` is asked for. -/
structure InspectOptions where
  connection : String
  schema : Option String := none
  /-- The path of a configuration file. -/
  config : Option String := none
  mode : Option Mode := none
  /-- The name to commit under. -/
  save : Option String := none

/-- A command with what it is given. -/
inductive Command where
  /-- Lists the schemas of a connection. -/
  | schemas (connection : String)
  /-- Lists the tables of a schema. -/
  | tables (connection : String) (schema : Option String)
  /-- Configures a datasource and shows the outcome. -/
  | inspect (options : InspectOptions)
  /-- Says who made a stored datasource. -/
  | origin (datasource : String)

/-- A command line. -/
structure Invocation where
  /-- The path of the settings file, if it is named. -/
  settings : Option String
  command : Command

/-- The option that names the settings file. -/
def settingsOption : OptionSpec := ⟨"settings", none, .path⟩

/-- The option that asks for help. -/
def helpOption : OptionSpec := ⟨"help", some 'h', .help⟩

/-- The option that asks for the version. -/
def versionOption : OptionSpec := ⟨"version", some 'V', .version⟩

/-- The option that names a connection. -/
def connectionOption : OptionSpec := ⟨"connection", some 'c', .text⟩

/-- The option that names a schema. -/
def schemaOption : OptionSpec := ⟨"schema", some 's', .text⟩

/-- The options of the program. -/
def programOptions : List OptionSpec := [settingsOption, helpOption, versionOption]

/-- The options of a command besides those of all commands, and the number of its words. -/
def specOf? (command : String) : Option (List OptionSpec × Nat) :=
  match command with
  | "schemas" => some ([connectionOption], 0)
  | "tables" => some ([connectionOption, schemaOption], 0)
  | "inspect" =>
    some ([connectionOption, schemaOption, ⟨"config", none, .path⟩, ⟨"star", none, .flag⟩,
      ⟨"flat", none, .flag⟩, ⟨"save", none, .text⟩], 0)
  | "origin" => some ([], 1)
  | _ => none

/-- The mode that is asked for; not both may be. -/
def modeOf (g : Given) : Except Ending (Option Mode) :=
  match g.has "star", g.has "flat" with
  | true, true => .error .misuse
  | true, false => .ok (some .star)
  | false, true => .ok (some .flat)
  | false, false => .ok none

/-- Puts a command together. -/
def commandOf (name : String) (g : Given) : Except Ending Command :=
  match name, g.value? "connection", g.words with
  | "schemas", some connection, [] => .ok (.schemas connection)
  | "tables", some connection, [] => .ok (.tables connection (g.value? "schema"))
  | "inspect", some connection, [] => return .inspect {
      connection
      schema := g.value? "schema"
      config := g.value? "config"
      mode := ← modeOf g
      save := g.value? "save" }
  | "origin", _, [datasource] => .ok (.origin datasource)
  | _, _, _ => .error .misuse

/-- How a request for help ends, on the commands that are named. -/
def helpOn (commands : List String) : Ending :=
  match commands with
  | [] => .help
  | ["help"] => .help
  | [command] => if (specOf? command).isSome then .help else .misuse
  | _ => .misuse

/-- Reads a command line. -/
def parse (args : List String) : Except Ending Invocation := do
  match ← readOptions programOptions (args.length + 1) args {} with
  | (_, []) => throw .misuse
  | (_, "help" :: commands) => throw (helpOn commands)
  | (program, name :: args) =>
    match specOf? name with
    | none => throw .misuse
    | some (options, words) =>
      let given ← readCommand (options ++ [settingsOption, helpOption]) words (args.length + 1)
        args {}
      return {
        settings := (given.value? "settings").or (program.value? "settings")
        command := ← commandOf name given }

end Cli
end JoinWizard
