import Scaffold.Path

/-!
# Commands

What the program can be asked to do, and the options that go with every request.
-/

namespace Scaffold

/-- Shells for which completions can be asked for. -/
inductive Shell where
  | bash
  | zsh
  | fish
  | powerShell
  | elvish
deriving DecidableEq, Repr

namespace Shell

def all : List Shell := [.bash, .zsh, .fish, .powerShell, .elvish]

/-- The word by which a shell is chosen. -/
def word : Shell → String
  | .bash => "bash"
  | .zsh => "zsh"
  | .fish => "fish"
  | .powerShell => "power-shell"
  | .elvish => "elvish"

def ofWord? (word : String) : Option Shell := all.find? fun shell => shell.word == word

end Shell

/-- A request to run a document. -/
structure RunRequest where
  source : String
  directory : Option Path
  force : Bool
  extendPath : Option String
  noInstall : Bool
  store : Option Path
deriving DecidableEq, Repr

inductive ConfigRequest where
  | get (key : String)
  | set (key value : String)
  | list
  | path
deriving DecidableEq, Repr

inductive Command where
  | run (request : RunRequest)
  | init (force : Bool)
  | completions (shell : Shell)
  | config (request : ConfigRequest)
deriving DecidableEq, Repr

/-- A command with the options that every command takes. -/
structure Invocation where
  command : Command
  /-- How often more detail was asked for. -/
  verbosity : Nat
  quiet : Bool
  noColor : Bool
  config : Option Path
deriving DecidableEq, Repr

end Scaffold
