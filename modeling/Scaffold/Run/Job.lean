import Scaffold.Document.Source
import Scaffold.Guard.When
import Scaffold.Pattern.Parser
import Scaffold.Run.Destination
import Scaffold.Run.Frame

/-!
# Running jobs

Every job passes its gate first: an id that is done, a guard that does not hold and a confirmation
that is answered the wrong way stop it.  After the job its id is done and its variable is defined.
-/

namespace Scaffold
namespace Job

variable {ω : Type}

/-- The question of a confirmation and the answer that lets the job run; `!` asks for a no. -/
def confirmation (confirm : String) : String × Bool :=
  match confirm.toList with
  | '!' :: rest => (String.ofList (Text.trimChars rest), false)
  | _ => (Text.trim confirm, true)

def isConfirmed : Option String → Run ω Bool
  | none => return true
  | some confirm => do
      let (message, required) := confirmation confirm
      return (← Service.confirm message required) == required

/-- Whether the guard holds, if there is one. -/
def isOpen : Option String → Run ω Bool
  | none => return true
  | some expression => do orFault (Guard.evaluate expression (← get).vars)

def shouldRun (gate : Gate) : Run ω Bool := do
  let s ← get
  if gate.id.any s.isCompleted then return false
  if !(← isOpen gate.when) then return false
  isConfirmed gate.confirm

/-- The id is done, and its variable gets the empty text if it has no value. -/
def finish (id : String) (s : RunState ω) : RunState ω :=
  let ref := VariableRef.ofJobId id
  let s := s.complete id
  if s.vars.isDefined ref.scope ref.name then s else s.set ref.scope ref.name ""

/-- Lets the action happen behind the gate. -/
def gated (gate : Gate) (act : Run ω Unit) : Run ω Unit := do
  if ← shouldRun gate then
    act
    match gate.id with
    | some id => modify (finish id)
    | none => return

/-- One line that is an address or an existing absolute file stands for what is found there. -/
def loadContent [FileTree ω] (web : Web) (content : String) : Run ω String := do
  if content.toList.contains '\n' then return content
  if isUrl content then return ← Service.fetch web content
  let path : Path := ⟨content⟩
  if path.isAbsolute && FileTree.occupied (← get).files path then return ← Service.read path
  return content

/-- A replacement that is a reference stands for its value; without a value it stays. -/
def replacementText (vars : Variables) (replacement : String) : String :=
  match VariableRef.parse replacement with
  | some ref => (vars.resolve ref (some replacement)).getD replacement
  | none => replacement

/-- Applies the replacements in order. -/
def replaceAll (vars : Variables) : List (String × String) → String →
    Except DocumentError String
  | [], text => .ok text
  | (pattern, replacement) :: rest, text =>
      match Pattern.compile pattern with
      | .error fault => .error (.invalidPattern pattern fault.message)
      | .ok p => replaceAll vars rest (p.replaceAll text (replacementText vars replacement))

def applyWrite [FileTree ω] (web : Web) (path : Path) : FileWrite → Run ω Unit
  | .overwrite content => do Service.write path (← loadContent web content)
  | .append content => do Service.append path (← loadContent web content)
  | .replace pairs => do
      let text ← Service.read path
      let text ← orFault (replaceAll (← get).vars pairs text)
      Service.write path text

def writeFile [FileTree ω] (around : Surroundings) (base : Option Path) (job : FileJob) :
    Run ω Unit := do
  let ignoreExisting := around.force || job.write.expectsExisting
  match ← Destination.resolve base job.name ignoreExisting with
  | .skip => Service.report .warn s!"✖ Skipped file: {job.name}"
  | .path path =>
      applyWrite around.web path job.write
      Service.report .success ("✔ File processed: " ++ path.text)

/-- The answer to a question. -/
def askQuestion (q : Question) : Run ω String :=
  match q.kind with
  | .ask => do return Destination.enteredName q.default (← Service.text q.question q.default)
  | .confirm => do
      let yes ← Service.confirm q.question (q.default == some "true")
      return if yes then "true" else "false"
  | .options choices => Service.select q.question choices q.default

/-- A question is asked unless its variable has a value. -/
def answerQuestion (id : Option String) (q : Question) : Run ω Unit := do
  match id with
  | none => throw (.document (.invalidJob none "question jobs require an `id`"))
  | some id =>
      let ref := VariableRef.ofJobId id
      unless (← get).vars.isDefined ref.scope ref.name do
        let answer ← askQuestion q
        modify fun s => s.set ref.scope ref.name answer

/-- Runs a task; `invoke` runs a definition. -/
def runTask [FileTree ω] (around : Surroundings) (invoke : Frame → String → Run ω Unit)
    (frame : Frame) (id : Option String) : Task → Run ω Unit
  | .file job => writeFile around frame.base job
  | .question q => answerQuestion id q
  | .registryDependencies names =>
      modify fun s => { s with pending := s.pending.addRegistry names }
  | .dependencies names =>
      modify fun s => { s with pending := s.pending.addPackages names }
  | .run target => invoke frame target
  | .log level message => Service.report level message

/-- The base of the jobs of a group. -/
def groupBase [FileTree ω] (frame : Frame) : Option String → Run ω (Option Path)
  | none => return frame.base
  | some base => do
      match ← Destination.resolve frame.base base true with
      | .path path => return some path
      | .skip => return frame.base

mutual
/-- Runs a job behind its gate. -/
def exec [FileTree ω] (around : Surroundings) (invoke : Frame → String → Run ω Unit)
    (frame : Frame) : Job → Run ω Unit
  | .task gate action => gated gate (runTask around invoke frame gate.id action)
  | .group gate base jobs =>
      gated gate do
        let base ← groupBase frame base
        execAll around invoke (frame.withBase base) jobs

/-- Runs jobs in order; the first error ends it. -/
def execAll [FileTree ω] (around : Surroundings) (invoke : Frame → String → Run ω Unit)
    (frame : Frame) : List Job → Run ω Unit
  | [] => return
  | job :: rest => do
      exec around invoke frame job
      execAll around invoke frame rest
end

/-- Runs a definition within the frame.  No definition is entered within itself, so that no more of
them than there are can be open; the number says how many may still be entered. -/
def invoke [FileTree ω] (around : Surroundings) : Nat → Frame → String → Run ω Unit
  | bound, frame, target => do
      match frame.definitions.find? target with
      | none => throw (.document (.unknownDefinition target))
      | some job =>
          let inner ← orFault (frame.enter target)
          match bound with
          | 0 => throw (.document (.definitionCycle inner.chain))
          | bound + 1 => exec around (invoke around bound) inner job

/-- Runs one job of a frame. -/
def run [FileTree ω] (around : Surroundings) (frame : Frame) (job : Job) : Run ω Unit :=
  exec around (invoke around frame.definitions.length) frame job

/-- Runs the jobs of a frame in order. -/
def runAll [FileTree ω] (around : Surroundings) (frame : Frame) (jobs : List Job) : Run ω Unit :=
  execAll around (invoke around frame.definitions.length) frame jobs

end Job
end Scaffold
