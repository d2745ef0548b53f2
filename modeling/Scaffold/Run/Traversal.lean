import Scaffold.Document.Reader
import Scaffold.Run.Job

/-!
# Running documents

The jobs of a document are run, and then the documents it depends on, each before what comes after
it in the list.  A document that has been seen is not run again.  Packages and registry entries are
collected on the way.
-/

namespace Scaffold
namespace Document

variable {ω : Type}

/-- Reads the document that a source names. -/
def obtain [FileTree ω] (web : Web) : DocumentSource → Run ω Document
  | .remote url => do
      let body ← Service.fetch web url
      match Json.parse body with
      | .error e => throw (.service (.fetchFailed url ("invalid JSON: " ++ e.message)))
      | .ok v => orFault (Document.ofJson v)
  | .local path => do orFault (Document.parse (← Service.read path))

/-- The document that an entry names; versioned packages name none. -/
def linked? : Dependency → Option DocumentSource
  | .package name => DocumentSource.ofDependency? name
  | .versioned _ => none

/-- Runs the document that an entry names, if it has not been seen, or collects the package. -/
def follow (load : DocumentSource → Run ω Unit) (dependency : Dependency) : Run ω Unit := do
  match linked? dependency with
  | some source =>
      if !(← get).isVisited source.key then
        modify (RunState.visit source.key)
        load source
  | none =>
      modify fun s =>
        { s with pending := { s.pending with packages := s.pending.packages ++ [dependency] } }

/-- Runs the documents among the dependencies that have not been seen and collects the packages. -/
def followAll (load : DocumentSource → Run ω Unit) : List Dependency → Run ω Unit
  | [] => return
  | dependency :: rest => do
      follow load dependency
      followAll load rest

/-- Runs a document and those it depends on; the number says how deep they may lie. -/
def load [FileTree ω] (around : Surroundings) (base : Option Path) :
    Nat → DocumentSource → Run ω Unit
  | 0, _ => throw (.internal "documents are nested too deeply")
  | bound + 1, source => do
      let document ← obtain around.web source
      Job.runAll around (Frame.root base document.definitions) document.jobs
      followAll (load around base bound) document.dependencies
      modify fun s => { s with pending := s.pending.addRegistry document.registryDependencies }

/-- How many documents on disk may depend on one another in a row. -/
def depthAllowance : Nat := 10000

/-- No chain of distinct pages is longer than the number of pages. -/
def depthBound (web : Web) : Nat := web.pages.length + depthAllowance

/-- Where all documents of a run write. -/
def extendedBase [FileTree ω] : Option String → Run ω (Option Path)
  | none => return none
  | some extend => do
      match ← Destination.resolve none extend true with
      | .path path => return some path
      | .skip => return none

/-- Runs the document that the text names, with all that it depends on. -/
def loadRoot [FileTree ω] (around : Surroundings) (extend : Option String) (text : String) :
    Run ω Unit := do
  let source := DocumentSource.parse text
  modify (RunState.visit source.key)
  let base ← extendedBase extend
  load around base (depthBound around.web) source

end Document
end Scaffold
