import Scaffold.Config.Settings

/-!
# Layers of settings

The settings in force come from three layers: those that hold by themselves, those of the file, and
those of the environment.  A later layer wins.  Values of the file are read generously: a number or
a truth value can stand for a text, and a number or a word for a truth value.
-/

namespace Scaffold
namespace Settings

/-- The text that a value stands for. -/
def asText : Toml → Option String
  | .string s => some s
  | .integer n => some (toString n)
  | .real x => some x.plainText
  | .bool b => some (boolText b)
  | .datetime text => some text
  | _ => none

def lowerWord (s : String) : String := String.ofList (s.toList.map Char.toLower)

/-- The truth value that a value stands for. -/
def asBool : Toml → Option Bool
  | .bool b => some b
  | .integer n => some (n != 0)
  | .real x => some !x.isZero
  | .string s =>
      let word := lowerWord s
      if ["1", "true", "on", "yes"].contains word then some true
      else if ["0", "false", "off", "no"].contains word then some false
      else none
  | _ => none

/-- The start of the names of variables that hold settings. -/
def variableStart : List Char := "scaflo_".toList

/-- The settings of the environment; letter case does not count in names. -/
def environmentEntries (env : Environment) : List (String × Toml) :=
  env.filterMap fun (name, value) =>
    let lower := name.toList.map Char.toLower
    if variableStart.isPrefixOf lower then
      some (String.ofList (lower.drop variableStart.length), .string value)
    else none

/-- The value of a key in the last layer that has one. -/
def lookUp (layers : List (List (String × Toml))) (key : String) : Option Toml :=
  layers.reverse.findSome? fun entries => entries.reverse.lookup key

/-- The value of a key, read one way; nothing if it cannot be read so. -/
def readOr {α : Type} (reading : Toml → Option α) (default : α) : Option Toml → Option α
  | none => some default
  | some v => reading v

/-- The settings of the layers above those that hold by themselves. -/
def ofLayers? (start : Settings) (layers : List (List (String × Toml))) : Option Settings := do
  let asSome (v : Toml) : Option (Option String) := (asText v).map some
  let githubToken ← readOr asSome start.githubToken (lookUp layers "github_token")
  let storePath ← readOr asText start.storePath.text (lookUp layers "store_path")
  let noColor ← readOr asBool start.noColor (lookUp layers "no_color")
  let packageManager ← readOr asSome start.packageManager (lookUp layers "package_manager")
  return ⟨githubToken, ⟨storePath⟩, noColor, packageManager⟩

/-- The text of the file, if there is one; `.toml` may be missing in its name. -/
def fileText? (disk : Disk) (path : Path) : Option String :=
  match disk.read path with
  | .ok text => some text
  | .error _ => (disk.read ⟨path.text ++ ".toml"⟩).toOption

/-- The settings in force; nothing if a layer cannot be read. -/
def load? (env : Environment) (disk : Disk) (path : Path) : Option Settings := do
  let fileEntries ←
    match fileText? disk path with
    | some text => Toml.parse text
    | none => some []
  ofLayers? (default env) [fileEntries, environmentEntries env]

end Settings
end Scaffold
