import Scaffold.Install.Manager
import Scaffold.Json.Parser
import Scaffold.Run.Session
import Scaffold.Terminal.Output

/-!
# Installing dependencies

Packages are added by the package manager, unless the manifest of the project lists them already.
Components of the registry are added only in a project that has been set up for them.
-/

namespace Scaffold

/-- What the programs of the system do when they are started. -/
inductive Programs where
  | absent
  /-- Each ends with that exit code after that text on its error output. -/
  | ending (exitCode : Nat) (errorText : String)
deriving DecidableEq, Repr

/-- The calls made and the text written while dependencies are installed. -/
structure InstallLog where
  calls : List (List String)
  written : String
deriving DecidableEq, Repr

/-- A project in which dependencies are installed. -/
structure InstallSite where
  disk : Disk
  root : Path
  manager : PackageManager
  output : Output
  programs : Programs

abbrev Install := ExceptT RunError (StateM InstallLog)

namespace InstallSite

def write (site : InstallSite) (kind : LineKind) (text : String) : Install Unit :=
  modify fun log => { log with written := log.written ++ site.output.line kind text }

/-- The name in front of the version; an at sign in front of everything belongs to the name. -/
def packageName (argument : String) : String :=
  let reversed := argument.toList.reverse
  match reversed.dropWhile (· != '@') with
  | '@' :: before => if before.isEmpty then argument else String.ofList before.reverse
  | _ => argument

/-- The names that a section of the manifest lists. -/
def sectionNames (manifest : Json) (name : String) : List String :=
  match manifest.field? name with
  | some (.object fields) => fields.map Prod.fst
  | _ => []

/-- The packages that a manifest lists; none if it cannot be read. -/
def manifestNames (text : String) : List String :=
  match Json.parse text with
  | .ok manifest => ["dependencies", "devDependencies"].flatMap (sectionNames manifest)
  | .error _ => []

def listedNames (site : InstallSite) : List String :=
  match site.disk.read (site.root.push "package.json") with
  | .ok text => manifestNames text
  | .error _ => []

/-- The arguments of packages that are listed and of those that are not. -/
def splitListed (listed : List String) (packages : List Dependency) :
    List String × List String :=
  (packages.flatMap Dependency.installArgs).partition fun argument =>
    listed.contains (packageName argument)

def failure (program reason : String) : RunError := .service (.install s!"{program}: {reason}")

/-- Runs a program; its error output is part of the error if it is read. -/
def start (site : InstallSite) (readsErrors : Bool) (command : String × List String) :
    Install Unit := do
  let (program, arguments) := command
  match site.programs with
  | .absent => throw (failure program SystemError.missing.message)
  | .ending exitCode errorText =>
      modify fun log => { log with calls := log.calls ++ [program :: arguments] }
      if exitCode ≠ 0 then
        let status := s!"exit status: {exitCode}"
        throw (failure program
          (if readsErrors then status ++ " " ++ Text.trim errorText else status))

/-- Adds the packages that are not listed yet. -/
def installPackages (site : InstallSite) (packages : List Dependency) : Install Unit := do
  let (skipped, wanted) := splitListed site.listedNames packages
  if !skipped.isEmpty then
    site.write .warning
      ("Already listed in package.json, skipping: " ++ ", ".intercalate skipped)
  if !wanted.isEmpty then
    site.start true (site.manager.addCommand wanted)
    site.write .success "Dependencies installed"

/-- Adds components of the registry. -/
def installRegistry (site : InstallSite) (components : List String) : Install Unit := do
  if site.disk.occupied (site.root.push "components.json") then
    site.write .warning "Registry components are not verified; check them after installation."
    site.start false (site.manager.registryCommand components)
    site.write .success "Components added"
  else
    site.write .error
      ("components.json not found. Initialise the registry first, then add manually: " ++
        ", ".intercalate components)

def installer (site : InstallSite) : Installer Install :=
  ⟨site.installPackages, site.installRegistry⟩

end InstallSite
end Scaffold
