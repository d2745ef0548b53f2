import Scaffold.Document.Basic
import Scaffold.Files.Basic
import Scaffold.Run.Prompt
import Scaffold.Variables.Table

/-!
# The state of a run

A run threads one state through all its jobs: the variables, the dependencies collected so far, the
documents seen and the ids that are done, the files, the answers ahead, and the transcript of all
calls to the world outside.
-/

namespace Scaffold

/-- What is to be installed after the run. -/
structure Pending where
  packages : List Dependency
  registry : List String
deriving DecidableEq, Repr

namespace Pending

def empty : Pending := ⟨[], []⟩

def isEmpty (p : Pending) : Bool := p.packages.isEmpty && p.registry.isEmpty

/-- What the second one holds comes behind what the first one holds. -/
instance : Append Pending := ⟨fun p q => ⟨p.packages ++ q.packages, p.registry ++ q.registry⟩⟩

def addPackages (names : List String) (p : Pending) : Pending :=
  { p with packages := p.packages ++ names.map .package }

def addRegistry (names : List String) (p : Pending) : Pending :=
  { p with registry := p.registry ++ names }

end Pending

/-- A call to the world outside. -/
inductive ServiceCall where
  | read (path : Path)
  | write (path : Path) (content : String)
  | append (path : Path) (content : String)
  | fetch (url : String)
  | text (message : String) (default : Option String)
  | confirm (message : String) (default : Bool)
  | select (message : String) (choices : List (String × String)) (default : Option String)
  | report (level : LogLevel) (message : String)
  | loadStore
  | saveStore (table : VariableTable)
deriving Repr

/-- The message of a prompt. -/
def ServiceCall.prompt? : ServiceCall → Option String
  | .text message _ => some message
  | .confirm message _ => some message
  | .select message _ _ => some message
  | _ => none

/-- What a call gives back. -/
inductive Reply where
  | done
  | text (s : String)
  | decision (yes : Bool)
  | table (table : VariableTable)
deriving Repr

/-- The values that calls give back. -/
class Replies (α : Type) where
  reply : α → Reply

instance : Replies Unit := ⟨fun _ => .done⟩
instance : Replies String := ⟨.text⟩
instance : Replies Bool := ⟨.decision⟩
instance : Replies VariableTable := ⟨.table⟩

/-- A call and what came of it. -/
structure ServiceEvent where
  call : ServiceCall
  outcome : Except RunError Reply

structure RunState (ω : Type) where
  vars : Variables
  pending : Pending
  visited : List String
  completed : List String
  files : ω
  prompter : Prompter
  transcript : List ServiceEvent

/-- An action of a run; its effects stay when it fails. -/
abbrev Run (ω : Type) := ExceptT RunError (StateM (RunState ω))

namespace RunState

variable {ω : Type}

/-- The state at the start of a run. -/
def start (vars : Variables) (files : ω) (prompter : Prompter) : RunState ω :=
  { vars, pending := .empty, visited := [], completed := [], files, prompter,
    transcript := [] }

/-- The state after one more member. -/
def inserted (member : String) (members : List String) : List String :=
  if members.contains member then members else members ++ [member]

def isVisited (s : RunState ω) (key : String) : Bool := s.visited.contains key

def visit (key : String) (s : RunState ω) : RunState ω :=
  { s with visited := inserted key s.visited }

def isCompleted (s : RunState ω) (id : String) : Bool := s.completed.contains id

def complete (id : String) (s : RunState ω) : RunState ω :=
  { s with completed := inserted id s.completed }

def set (scope : Scope) (path value : String) (s : RunState ω) : RunState ω :=
  { s with vars := s.vars.set scope path value }

end RunState
end Scaffold
