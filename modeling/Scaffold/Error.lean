import Scaffold.Path

/-!
# What can go wrong

A document can be at fault, a service that a run uses can fail, and the configuration can be
wrong.  Each error has one text, advice for the reader and a category.
-/

namespace Scaffold

/-- Faults of a document, found while it is read or while its jobs are run. -/
inductive DocumentError where
  | invalidDocument (message : String)
  | invalidJob (job : Option String) (reason : String)
  | unknownJobType (name : String)
  | unknownQuestionType (id name : String)
  | invalidDependencies (field found : String)
  | missingGuard (jobType : String)
  | unknownDefinition (target : String)
  | definitionCycle (chain : List String)
  | invalidPattern (pattern reason : String)
  | invalidExpression (expression reason : String)
deriving DecidableEq, Repr

/-- Failures of files, web, prompts, store and package manager. -/
inductive ServiceError where
  | fetchFailed (url reason : String)
  | cancelled
  | files (path : Path) (reason : String)
  | store (path : Path) (reason : String)
  | install (reason : String)
deriving DecidableEq, Repr

inductive RunError where
  | document (e : DocumentError)
  | service (e : ServiceError)
  | configuration (message : String)
  | internal (message : String)
deriving DecidableEq, Repr

inductive ErrorCategory where
  | document
  | notFound
  | cancelled
  | configuration
  | internal
deriving DecidableEq, Repr

namespace DocumentError

def message : DocumentError → String
  | .invalidDocument message => s!"Invalid document: {message}"
  | .invalidJob none reason => s!"Invalid job: {reason}"
  | .invalidJob (some id) reason => s!"Invalid job '{id}': {reason}"
  | .unknownJobType name => s!"Invalid job type '{name}'"
  | .unknownQuestionType id name => s!"Invalid question type '{name}' for question '{id}'"
  | .invalidDependencies field found =>
      s!"Invalid {field} payload: expected a string or an array of strings, found {found}"
  | .missingGuard jobType => s!"'{jobType}' jobs require a `when` guard"
  | .unknownDefinition target => s!"Definition '{target}' is not declared in this document"
  | .definitionCycle chain => "Definition cycle detected: " ++ " -> ".intercalate chain
  | .invalidPattern pattern reason => s!"Invalid replace pattern '{pattern}': {reason}"
  | .invalidExpression expression reason =>
      s!"Cannot evaluate `when` expression '{expression}': {reason}"

def advice : DocumentError → List String
  | .invalidDocument message =>
      ["Check that the document is valid JSON", s!"Details: {message}"]
  | .unknownJobType name =>
      [s!"'{name}' is not a job type",
        "Supported types: file, question, group, registryDependencies, dependencies, run, log"]
  | .unknownQuestionType _ name =>
      [s!"'{name}' is not a question type",
        "Supported question types: ask, confirm, options"]
  | .missingGuard jobType =>
      [s!"Add a `when` condition to the '{jobType}' job",
        "Example: \"when\": \"#useTypescript\""]
  | .unknownDefinition target =>
      [s!"Declare '{target}' under the document's `definitions`",
        "Definitions are scoped to the document that declares them"]
  | .definitionCycle _ =>
      ["A definition reaches itself through `run` jobs",
        "Break the chain or guard one of the `run` jobs with `when`"]
  | .invalidExpression .. =>
      ["Supported: #id, @id, !, ==, !=, &&, ||, parentheses, 'string' literals",
        "Example: \"#framework == 'react' && !@skipTests\""]
  | _ => ["Check the job definition in the document"]

/-- Structural faults, faults of expressions and missing definitions. -/
inductive Category where
  | structural
  | expression
  | notFound
deriving DecidableEq, Repr

def category : DocumentError → Category
  | .invalidExpression .. => .expression
  | .unknownDefinition _ => .notFound
  | _ => .structural

end DocumentError

namespace ServiceError

def message : ServiceError → String
  | .fetchFailed url reason => s!"Failed to fetch {url}: {reason}"
  | .cancelled => "Cancelled by user"
  | .files path reason => "Filesystem error at " ++ path.text ++ ": " ++ reason
  | .store path reason => "Store error at " ++ path.text ++ ": " ++ reason
  | .install reason => s!"Dependency installation failed: {reason}"

def advice : ServiceError → List String
  | .fetchFailed url _ =>
      [s!"Could not download: {url}", "Check the URL and your network connection",
        "Private GitHub files need `github_token` in the config"]
  | .cancelled => ["Nothing after the cancelled prompt was run"]
  | .files path _ =>
      ["Failed to access: " ++ path.text, "Check that you have write permissions"]
  | .store path _ =>
      ["Store file: " ++ path.text, "Fix or delete the file; it must hold a JSON object"]
  | .install _ =>
      ["Files were written; install the dependencies manually",
        "Or set `package_manager` in the config"]

def category : ServiceError → ErrorCategory
  | .fetchFailed .. => .notFound
  | .cancelled => .cancelled
  | .files .. => .internal
  | .install _ => .internal
  | .store .. => .configuration

end ServiceError

namespace RunError

def message : RunError → String
  | .document e => e.message
  | .service e => e.message
  | .configuration message => s!"Configuration error: {message}"
  | .internal message => s!"Internal error: {message}. This is a bug, please report it."

def advice : RunError → List String
  | .document e => e.advice
  | .service e => e.advice
  | .configuration message =>
      [s!"Configuration issue: {message}",
        "Run `scaflo config list` to inspect the active settings"]
  | .internal _ => ["This appears to be a bug in Scaflo"]

def category : RunError → ErrorCategory
  | .document e =>
      match e.category with
      | .structural => .document
      | .expression => .document
      | .notFound => .notFound
  | .service e => e.category
  | .configuration _ => .configuration
  | .internal _ => .internal

/-- Whether the user put an end to the run. -/
def isCancelled : RunError → Bool
  | .service .cancelled => true
  | _ => false

/-- An error as the cause of another one is told once more by the part it comes from. -/
def causes : RunError → List String
  | .document e => [e.message]
  | .service e => [e.message]
  | _ => []

end RunError
end Scaffold
