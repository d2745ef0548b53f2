import Scaffold.Json.Basic

/-!
# Documents

A document is a list of jobs to run in order, the packages and documents it depends on, and
definitions: named jobs that other jobs run.  A job is a task behind a gate, or a group of jobs.
-/

namespace Scaffold

/-- The severity of a message. -/
inductive LogLevel where
  | error
  | warn
  | info
  | success
  | log
deriving DecidableEq, Repr

namespace LogLevel

def name : LogLevel → String
  | .error => "error"
  | .warn => "warn"
  | .info => "info"
  | .success => "success"
  | .log => "log"

def all : List LogLevel := [.error, .warn, .info, .success, .log]

def ofName? (s : String) : Option LogLevel := all.find? fun level => level.name == s

end LogLevel

/-- An entry of a dependency list: a package, or packages with the versions they are pinned to. -/
inductive Dependency where
  | package (name : String)
  | versioned (pins : List (String × String))
deriving DecidableEq, Repr

/-- The arguments by which a package manager is asked for the packages. -/
def Dependency.installArgs : Dependency → List String
  | .package name => [name]
  | .versioned pins => pins.map fun pin => pin.1 ++ "@" ++ pin.2

/-- What a file job does to its file.  Replacements are applied in order. -/
inductive FileWrite where
  | overwrite (content : String)
  | append (content : String)
  | replace (pairs : List (String × String))
deriving DecidableEq, Repr

/-- Appending and replacing expect the file to exist, so that it is no collision. -/
def FileWrite.expectsExisting : FileWrite → Bool
  | .overwrite _ => false
  | _ => true

structure FileJob where
  name : String
  write : FileWrite
deriving DecidableEq, Repr

/-- How a question is answered; options are values with the labels they are shown under. -/
inductive QuestionKind where
  | ask
  | confirm
  | options (choices : List (String × String))
deriving DecidableEq, Repr

structure Question where
  question : String
  default : Option String
  kind : QuestionKind
deriving DecidableEq, Repr

inductive Task where
  | file (job : FileJob)
  | question (q : Question)
  | registryDependencies (names : List String)
  | dependencies (names : List String)
  | run (target : String)
  | log (level : LogLevel) (message : String)
deriving DecidableEq, Repr

/-- What decides whether a job runs: each id runs once, `when` is a guard, `confirm` a prompt. -/
structure Gate where
  id : Option String
  when : Option String
  confirm : Option String
deriving DecidableEq, Repr

inductive Job where
  | task (gate : Gate) (task : Task)
  | group (gate : Gate) (base : Option String) (jobs : List Job)
deriving Repr

namespace Job

def gate : Job → Gate
  | .task gate _ => gate
  | .group gate _ _ => gate

def typeName : Job → String
  | .group .. => "group"
  | .task _ (.file _) => "file"
  | .task _ (.question _) => "question"
  | .task _ (.registryDependencies _) => "registryDependencies"
  | .task _ (.dependencies _) => "dependencies"
  | .task _ (.run _) => "run"
  | .task _ (.log ..) => "log"

end Job

/-- The named jobs of a document, in order. -/
abbrev Definitions := List (String × Job)

def Definitions.find? (target : String) : Definitions → Option Job
  | [] => none
  | (name, job) :: rest => if name = target then some job else find? target rest

structure Document where
  name : Option String
  title : Option String
  version : Option String
  description : Option String
  jobs : List Job
  dependencies : List Dependency
  registryDependencies : List String
  definitions : Definitions
deriving Repr

/-- The title, or else the name. -/
def Document.label (d : Document) : String := (d.title <|> d.name).getD "document"

end Scaffold
