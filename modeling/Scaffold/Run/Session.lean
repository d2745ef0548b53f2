import Scaffold.Run.Traversal

/-!
# Sessions

A session loads the store, runs a document, and saves the store if that went well and the store
holds anything.  What was answered in a run that failed is forgotten.
-/

namespace Scaffold

/-- Where the store is kept between sessions. -/
class Repository (ω : Type) where
  loadStore : ω → Except RunError VariableTable
  saveStore : VariableTable → ω → Except RunError Unit × ω

structure RunOptions where
  force : Bool
  /-- A template of the directory in which all documents write. -/
  extendPath : Option String
deriving DecidableEq, Repr

/-- What a session leaves behind. -/
structure RunSummary where
  pending : Pending
  storeSaved : Bool
deriving DecidableEq, Repr

namespace Session

variable {ω : Type}

def loadStore [Repository ω] : Run ω VariableTable := do
  Service.perform .loadStore (Repository.loadStore (← get).files)

def saveStore [Repository ω] (table : VariableTable) : Run ω Unit := do
  let (outcome, files) := Repository.saveStore table (← get).files
  modify fun s => { s with files }
  Service.perform (.saveStore table) outcome

/-- Saves the store if it holds anything, and tells what is left to do. -/
def close [Repository ω] : Run ω RunSummary := do
  let final := (← get).vars.store
  let storeSaved := !final.isEmpty
  if storeSaved then saveStore final
  return { pending := (← get).pending, storeSaved }

/-- Runs the document that the text names, from the store that is loaded to the store that is
saved. -/
def run [FileTree ω] [Repository ω] (web : Web) (options : RunOptions) (source : String) :
    Run ω RunSummary := do
  let store ← loadStore
  modify fun s => { s with vars := .withStore store }
  Document.loadRoot ⟨web, options.force⟩ options.extendPath source
  close

/-- A session of its own, over the files and with the answers. -/
def runFrom [FileTree ω] [Repository ω] (web : Web) (options : RunOptions) (prompter : Prompter)
    (source : String) (files : ω) : Except RunError RunSummary × RunState ω :=
  (run web options source).run.run (RunState.start (.withStore .empty) files prompter)

end Session

/-- What installs the dependencies that a run has collected. -/
structure Installer (μ : Type → Type) where
  installPackages : List Dependency → μ Unit
  installRegistry : List String → μ Unit

/-- Installs what is pending, packages first; nothing is called for an empty list. -/
def Pending.install {μ : Type → Type} [Monad μ] (installer : Installer μ) (p : Pending) :
    μ Unit := do
  if !p.packages.isEmpty then installer.installPackages p.packages
  if !p.registry.isEmpty then installer.installRegistry p.registry

end Scaffold
