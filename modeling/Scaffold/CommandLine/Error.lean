import Scaffold.Error
import Scaffold.Terminal.Style

/-!
# Errors of commands

A command fails on its input, on the configuration, on a run or on the system.  The user is told
what went wrong and what to do about it, and the category decides the exit code.
-/

namespace Scaffold

/-- The keys of the configuration. -/
def configKeys : List String := ["github_token", "store_path", "no_color", "package_manager"]

inductive CommandError where
  | invalidInput (message : String) (cause : Option String)
  | configuration (message : String) (cause : Option String)
  | unknownKey (key : String)
  | run (e : RunError)
  | system (message cause : String)
deriving DecidableEq, Repr

namespace CommandError

inductive Category where
  | user
  | notFound
  | configuration
  | internal
deriving DecidableEq, Repr

def message : CommandError → String
  | .invalidInput message _ => s!"Invalid input: {message}"
  | .configuration message _ => s!"Configuration error: {message}"
  | .unknownKey key => s!"Unknown config key '{key}'"
  | .run e => "Scaffolding failed: " ++ e.message
  | .system message _ => s!"I/O error: {message}"

/-- An error of the system that is reported as it is. -/
def ofSystem (message : String) : CommandError := .system message message

def advice (configPath : Path) : CommandError → List String
  | .invalidInput message _ =>
      [s!"Check your input: {message}", "Use --help for usage information"]
  | .configuration message _ =>
      [s!"Configuration issue: {message}",
        "Check your config file at " ++ configPath.text,
        "Use 'scaflo init --force' to recreate a default config"]
  | .unknownKey key =>
      [s!"'{key}' is not a configuration key", "Known keys:"] ++
        configKeys.map fun known => s!"  • {known}"
  | .run e => e.advice
  | .system message _ =>
      [s!"I/O operation failed: {message}", "Check file permissions",
        "Ensure the parent directory exists"]

def category : CommandError → Category
  | .invalidInput .. => .user
  | .configuration .. => .configuration
  | .unknownKey _ => .user
  | .run e =>
      match e.category with
      | .document => .user
      | .cancelled => .user
      | .notFound => .notFound
      | .configuration => .configuration
      | .internal => .internal
  | .system .. => .internal

def Category.exitCode : Category → Nat
  | .user => 2
  | .notFound => 3
  | .configuration => 4
  | .internal => 1

def exitCode (e : CommandError) : Nat := e.category.exitCode

/-- What led to the error, the nearest cause first. -/
def causes : CommandError → List String
  | .invalidInput _ cause => cause.toList
  | .configuration _ cause => cause.toList
  | .unknownKey _ => []
  | .run e => e.message :: e.causes
  | .system _ cause => [cause]

def detailsHint : String := "Use -v / --verbose for more details."

/-- The text for the user; causes are listed in place of the hint that there may be more. -/
def plainText (configPath : Path) (verbose : Bool) (e : CommandError) : String :=
  let advice := e.advice configPath
  "\nError: " ++ e.message ++ "\n" ++
    (if verbose then String.join (e.causes.map fun cause => s!"  Caused by: {cause}\n") else "") ++
    (if advice.isEmpty then ""
      else "\nSuggestions:\n" ++ String.join (advice.map fun line => s!"  {line}\n")) ++
    (if verbose then "" else "\n" ++ detailsHint ++ "\n")

/-- The same in color. -/
def coloredText (configPath : Path) (verbose : Bool) (e : CommandError) : String :=
  let advice := e.advice configPath
  "\n" ++ Style.strong .red "✗" ++ " " ++ Style.strong .red "Error:" ++ "\n\n" ++
    "  " ++ Style.colored .red e.message ++ "\n" ++
    (if verbose then
      String.join (e.causes.map fun cause =>
        "\n  " ++ Style.dimmed "→" ++ " " ++ Style.dimmed cause ++ "\n")
      else "") ++
    (if advice.isEmpty then ""
      else "\n" ++ Style.strong .yellow "Suggestions:" ++ "\n" ++
        String.join (advice.map fun line => s!"  {line}\n")) ++
    (if verbose then ""
      else "\n" ++ Style.colored .blue "ℹ" ++ " " ++ Style.dimmed detailsHint ++ "\n")

end CommandError
end Scaffold
