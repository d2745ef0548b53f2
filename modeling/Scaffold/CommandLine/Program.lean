import Scaffold.CommandLine.Error
import Scaffold.CommandLine.Parser
import Scaffold.Config.EnvironmentFile
import Scaffold.Config.Layers
import Scaffold.Install.Command
import Scaffold.Store.File

/-!
# The program

One start of the program on a machine: the arguments are read, the settings are loaded, the command
does its work, and the outcome is an exit code with what was written to the two outputs.  The
machine is a value, so that a start gives the disk as the program leaves it.
-/

namespace Scaffold

/-- What the program finds where it is started. -/
structure Machine where
  environment : Environment
  disk : Disk
  web : Web
  prompter : Prompter
  programs : Programs

/-- What is left when the program has ended. -/
structure Outcome where
  exitCode : Nat
  output : String
  errors : String
deriving DecidableEq, Repr

namespace Program

/-- What changes while a command does its work. -/
structure State where
  disk : Disk
  prompter : Prompter
  written : String

abbrev Work := ExceptT CommandError (StateM State)

/-- Goes on with a value, or fails as the command does. -/
def orError {α : Type} : Except CommandError α → Work α
  | .ok a => return a
  | .error e => throw e

/-- Goes on with a value, or fails as the run does. -/
def orRunError {α : Type} (outcome : Except RunError α) : Work α :=
  orError (outcome.mapError .run)

/-- What a command knows when it starts. -/
structure Setting where
  machine : Machine
  environment : Environment
  invocation : Invocation
  settings : Settings
  output : Output

namespace Setting

def currentPath (s : Setting) : Path :=
  Path.ofComponents (.root :: s.machine.disk.current.map .name)

/-- The file of settings that commands work on. -/
def configPath (s : Setting) : Path := s.invocation.config.getD s.environment.configPath

def write (s : Setting) (kind : LineKind) (text : String) : Work Unit :=
  modify fun state => { state with written := state.written ++ s.output.line kind text }

/-- The directory in which a run works; one that is named has to be there. -/
def workingDirectory (s : Setting) (directory : Option Path) : Work Path := do
  match directory with
  | none => return s.currentPath
  | some directory =>
      let root := s.currentPath.join directory
      if (← get).disk.isDirectory root then return root
      throw (.invalidInput ("working directory '" ++ directory.text ++ "' does not exist") none)

/-- The lines that a run reports; a quiet run reports nothing. -/
def reported (s : Setting) (transcript : List ServiceEvent) : String :=
  if s.invocation.quiet then ""
  else
    String.join (transcript.map fun event =>
      match event.call with
      | .report level message => s.output.line (.ofLevel level) message
      | _ => "")

/-- Runs the document and keeps what it has done to the disk, even if it fails. -/
def runDocument (s : Setting) (request : RunRequest) (root : Path) : Work RunSummary := do
  let state ← get
  let store : StoreFile := ⟨request.store.getD s.settings.storePath⟩
  let project : Project := ⟨⟨state.disk, root⟩, store⟩
  let options : RunOptions := ⟨request.force, request.extendPath⟩
  let (result, final) :=
    Session.runFrom s.machine.web options state.prompter request.source project
  set { state with
    disk := final.files.files.disk
    prompter := final.prompter
    written := state.written ++ s.reported final.transcript }
  orRunError result

def showPending (s : Setting) (pending : Pending) : Work Unit := do
  s.write .header "Dependencies collected:"
  (pending.packages.flatMap Dependency.installArgs).forM fun argument =>
    s.write .message s!"  • {argument}"
  pending.registry.forM fun component => s.write .message s!"  • {component} (registry)"

/-- Asks whether to install; yes is what is offered. -/
def confirmInstall : Work Bool := do
  let (answer, prompter) := (← get).prompter.next
  modify fun state => { state with prompter }
  orRunError (answer.bind (Answer.boolOr true))

/-- The site of an installation in that directory. -/
def site (s : Setting) (root : Path) (disk : Disk) : InstallSite :=
  let userAgent := s.environment.get? "npm_config_user_agent"
  { disk
    root
    manager := PackageManager.detect s.settings.packageManager userAgent disk root
    output := s.output
    programs := s.machine.programs }

def install (s : Setting) (root : Path) (pending : Pending) : Work Unit := do
  let installation := pending.install (s.site root (← get).disk).installer
  let (result, log) := installation.run.run ⟨[], ""⟩
  modify fun state => { state with written := state.written ++ log.written }
  orRunError result

def run (s : Setting) (request : RunRequest) : Work Unit := do
  let root ← s.workingDirectory request.directory
  if request.directory.isSome then s.write .info ("Working directory: " ++ root.text)
  if isUrl request.source then s.write .info ("Fetching " ++ request.source)
  let summary ← s.runDocument request root
  s.write .success "Files added successfully!"
  if summary.pending.isEmpty then return
  s.showPending summary.pending
  if request.noInstall then s.write .info "Skipping installation (--no-install)"
  else if ← confirmInstall then s.install root summary.pending
  else s.write .info "Installation skipped"

/-- Writes the settings to the file. -/
def writeSettings (s : Setting) (settings : Settings) : Work Unit := do
  let (result, disk) := settings.write s.configPath (← get).disk
  modify fun state => { state with disk }
  orError result

/-- Writes a file of settings that hold by themselves; one that is there is left alone. -/
def init (s : Setting) (force : Bool) : Work Unit := do
  let path := s.configPath
  if (← get).disk.occupied path && !force then
    s.write .warning
      ("Config already exists at " ++ path.text ++ "  (use --force to overwrite)")
  else
    s.writeSettings (.default s.environment)
    s.write .success ("Configuration created at " ++ path.text)

/-- The settings in force as they are listed. -/
def listing (s : Setting) : String :=
  { s.settings with githubToken := s.settings.githubToken.map Settings.masked }.text

/-- Settings are shown as they are in force; only those of the file are changed. -/
def config (s : Setting) : ConfigRequest → Work Unit
  | .get key => do s.write .data (← orError (s.settings.get key))
  | .set key value => do
      let before ← orError (Settings.read s.environment (← get).disk s.configPath)
      let after ← orError (before.set key value)
      s.writeSettings after
      let shown ← orError (after.get key)
      s.write .success s!"Set {key} = {shown}"
  | .list => do
      s.write .header "Current Configuration:"
      s.write .data s.listing
  | .path => s.write .data s.configPath.text

/-- Does the work of the command.  There are no texts of completions. -/
def work (s : Setting) : Work Unit :=
  match s.invocation.command with
  | .run request => s.run request
  | .init force => s.init force
  | .completions _ => return
  | .config request => s.config request

/-- The outcome of the command and the disk after it. -/
def outcome (s : Setting) : Outcome × Disk :=
  let (result, state) :=
    s.work.run.run ⟨s.machine.disk, s.machine.prompter, ""⟩
  let outcome : Outcome :=
    match result with
    | .ok () => ⟨0, state.written, ""⟩
    | .error e =>
        ⟨e.exitCode, state.written,
          e.plainText s.environment.configPath (s.invocation.verbosity != 0)⟩
  (outcome, state.disk)

end Setting

/-- The exit code when the settings cannot be loaded. -/
def settingsFailure : Nat := CommandError.Category.configuration.exitCode

def unreadable (path : Path) : Outcome :=
  let reason := "invalid configuration in " ++ path.text
  ⟨settingsFailure, "", s!"Failed to load configuration: {reason}\n"⟩

/-- Starts the program with these arguments. -/
def start (arguments : List String) (machine : Machine) : Outcome × Disk :=
  let environment := EnvironmentFile.load machine.disk machine.environment
  match CommandLine.parse (environment.get? "NO_COLOR") arguments with
  | .error fault => (⟨fault.exitCode, "", ""⟩, machine.disk)
  | .ok invocation =>
      let path := invocation.config.getD environment.configPath
      match Settings.load? environment machine.disk path with
      | none => (unreadable path, machine.disk)
      | some settings =>
          let colored := !(invocation.noColor || settings.noColor)
          Setting.outcome
            { machine, environment, invocation, settings, output := ⟨invocation.quiet, colored⟩ }

end Program
end Scaffold
