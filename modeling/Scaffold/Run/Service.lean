import Scaffold.Run.State

/-!
# Services

Files, web, prompts, reports and the store are services outside of a run.  Each use of one is an
action that performs a call and notes it in the transcript.
-/

namespace Scaffold

/-- Pages by address, each with its body or the error that is met instead of it; what is not among
them cannot be found. -/
structure Web where
  pages : List (String × Except RunError String)

instance : Coe (List (String × String)) (List (String × Except RunError String)) :=
  ⟨List.map fun page => (page.1, .ok page.2)⟩

def Web.fetch (web : Web) (url : String) : Except RunError String :=
  match web.pages.lookup url with
  | some page => page
  | none => .error (.service (.fetchFailed url "404 Not Found"))

/-- What stays the same during a run. -/
structure Surroundings where
  web : Web
  /-- Overwrite files without asking. -/
  force : Bool

namespace Service

variable {ω : Type}

/-- Notes the call with its outcome and goes on with it. -/
def perform {α : Type} [Replies α] (call : ServiceCall) (outcome : Except RunError α) :
    Run ω α := do
  modify fun s =>
    { s with transcript := s.transcript ++ [⟨call, outcome.map Replies.reply⟩] }
  match outcome with
  | .ok a => return a
  | .error e => throw e

def read [FileTree ω] (path : Path) : Run ω String := do
  perform (.read path) (FileTree.read (← get).files path)

def write [FileTree ω] (path : Path) (content : String) : Run ω Unit := do
  let (outcome, files) := FileTree.write path content (← get).files
  modify fun s => { s with files }
  perform (.write path content) outcome

def append [FileTree ω] (path : Path) (content : String) : Run ω Unit := do
  let (outcome, files) := FileTree.append path content (← get).files
  modify fun s => { s with files }
  perform (.append path content) outcome

def fetch (web : Web) (url : String) : Run ω String := perform (.fetch url) (web.fetch url)

/-- Shows a prompt and reads the next answer to it. -/
def prompt {α : Type} [Replies α] (call : ServiceCall)
    (reading : Answer → Except RunError α) : Run ω α := do
  let (answer, prompter) := (← get).prompter.next
  modify fun s => { s with prompter }
  perform call (answer.bind reading)

def text (message : String) (default : Option String) : Run ω String :=
  prompt (.text message default) (Answer.textOr default)

def confirm (message : String) (default : Bool) : Run ω Bool :=
  prompt (.confirm message default) (Answer.boolOr default)

def select (message : String) (choices : List (String × String)) (default : Option String) :
    Run ω String :=
  prompt (.select message choices default) (Answer.choiceOr choices default)

def report (level : LogLevel) (message : String) : Run ω Unit :=
  perform (.report level message) (.ok ())

end Service

/-- Goes on with a value, or fails with a fault of the document. -/
def orFault {ω α : Type} : Except DocumentError α → Run ω α
  | .ok a => return a
  | .error e => throw (.document e)

end Scaffold
