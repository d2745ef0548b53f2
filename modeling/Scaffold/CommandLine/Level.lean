import Scaffold.CommandLine.Command

/-!
# Levels of the command line

The command line starts at the top level, and each name of a command leads to the level of that
command.  A level has options, which start with hyphens, and values that are told apart by their
position; some levels have commands below them instead.
-/

namespace Scaffold

inductive Level where
  | top
  | run
  | init
  | completions
  | config
  | configGet
  | configSet
  | configList
  | configPath
deriving DecidableEq, Repr

/-- Which texts a value may be. -/
inductive ValueRule where
  | anyText
  | nonEmpty
  | shell
deriving DecidableEq, Repr

def ValueRule.admits (text : String) : ValueRule → Bool
  | .anyText => true
  | .nonEmpty => text != ""
  | .shell => (Shell.ofWord? text).isSome

/-- What an option does. -/
inductive OptionEffect where
  | help
  | version
  /-- Is there or not. -/
  | flag
  /-- Counts how often it is there. -/
  | count
  | value (rule : ValueRule)
deriving DecidableEq, Repr

structure OptionRule where
  name : String
  letter : Option Char
  effect : OptionEffect
deriving DecidableEq, Repr

structure PositionRule where
  name : String
  value : ValueRule
deriving DecidableEq, Repr

namespace Level

/-- The options of every level. -/
def sharedOptions : List OptionRule :=
  [ ⟨"verbose", some 'v', .count⟩, ⟨"quiet", some 'q', .flag⟩, ⟨"no-color", none, .flag⟩,
    ⟨"config", some 'c', .value .nonEmpty⟩, ⟨"help", some 'h', .help⟩ ]

def ownOptions : Level → List OptionRule
  | .top => [⟨"version", some 'V', .version⟩]
  | .run =>
      [ ⟨"dir", some 'd', .value .nonEmpty⟩, ⟨"force", some 'f', .flag⟩,
        ⟨"extend-path", some 'e', .value .anyText⟩, ⟨"no-install", none, .flag⟩,
        ⟨"store", none, .value .nonEmpty⟩ ]
  | .init => [⟨"force", some 'f', .flag⟩]
  | _ => []

def options (level : Level) : List OptionRule := sharedOptions ++ level.ownOptions

def positions : Level → List PositionRule
  | .run => [⟨"source", .anyText⟩]
  | .completions => [⟨"shell", .shell⟩]
  | .configGet => [⟨"key", .anyText⟩]
  | .configSet => [⟨"key", .anyText⟩, ⟨"value", .anyText⟩]
  | _ => []

/-- The commands below a level. -/
def commands : Level → List (String × Level)
  | .top =>
      [ ("run", .run), ("r", .run), ("init", .init), ("completions", .completions),
        ("config", .config) ]
  | .config =>
      [("get", .configGet), ("set", .configSet), ("list", .configList), ("path", .configPath)]
  | _ => []

/-- A level with commands below it wants one of them. -/
def wantsCommand (level : Level) : Bool := !level.commands.isEmpty

/-- The word in front of the names of commands that help is wanted with. -/
def helpWord : String := "help"

/-- Whether the word is a command of the level, help included. -/
def isCommand (level : Level) (word : String) : Bool :=
  level.wantsCommand && (word == helpWord || (level.commands.lookup word).isSome)

def optionNamed? (level : Level) (name : String) : Option OptionRule :=
  level.options.find? fun option => option.name == name

def optionLettered? (level : Level) (letter : Char) : Option OptionRule :=
  level.options.find? fun option => option.letter == some letter

end Level
end Scaffold
