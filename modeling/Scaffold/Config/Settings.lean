import Scaffold.Config.Environment
import Scaffold.Install.Manager
import Scaffold.Toml.Parser
import Scaffold.Toml.Printer

/-!
# Settings

The settings of the program, by key and as a file.  An update changes them in place and may fail on
the way.
-/

namespace Scaffold

structure Settings where
  githubToken : Option String
  storePath : Path
  noColor : Bool
  packageManager : Option String
deriving DecidableEq, Repr

namespace Settings

def default (env : Environment) : Settings := ⟨none, env.storePath, false, none⟩

/-- Four characters of a token are shown. -/
def masked (token : String) : String := String.ofList (token.toList.take 4) ++ "****"

def boolText (b : Bool) : String := if b then "true" else "false"

/-- The value of a key as it is shown; what is not set is empty. -/
def get (s : Settings) (key : String) : Except CommandError String :=
  match key with
  | "github_token" => .ok ((s.githubToken.map masked).getD "")
  | "store_path" => .ok s.storePath.text
  | "no_color" => .ok (boolText s.noColor)
  | "package_manager" => .ok (s.packageManager.getD "")
  | _ => .error (.unknownKey key)

def nonEmpty (value : String) : Option String := if value = "" then none else some value

/-- A switch is spelled in one of two ways. -/
def readSwitch (value : String) : Except CommandError Bool :=
  match value with
  | "true" => .ok true
  | "false" => .ok false
  | _ => .error (.invalidInput s!"no_color must be true or false, got '{value}'" none)

/-- Work on settings; what it has changed before it fails stays changed. -/
abbrev Update := ExceptT CommandError (StateM Settings)

/-- Changes the value of a key, which is checked before it is kept. -/
def update (key value : String) : Update Unit :=
  match key with
  | "github_token" => modify fun s => { s with githubToken := nonEmpty value }
  | "store_path" => modify fun s => { s with storePath := ⟨value⟩ }
  | "no_color" => do
      let noColor ← ofExcept (readSwitch value)
      modify fun s => { s with noColor }
  | "package_manager" => do
      unless value = "" do
        discard (ofExcept (PackageManager.parse value))
      modify fun s => { s with packageManager := nonEmpty value }
  | _ => throw (.unknownKey key)

/-- The outcome of an update and the settings that it leaves, also when it fails. -/
def updated (s : Settings) (key value : String) : Except CommandError Unit × Settings :=
  (update key value).run.run s

/-- The settings behind an update for a caller that goes on only when it went well. -/
def set (s : Settings) (key value : String) : Except CommandError Settings :=
  match s.updated key value with
  | (.ok (), t) => .ok t
  | (.error e, _) => .error e

def line (key value : String) : String := s!"{key} = {value}\n"

def optionalLine (key : String) : Option String → String
  | some value => line key (Toml.stringText value)
  | none => ""

/-- The settings as the text of a file. -/
def text (s : Settings) : String :=
  optionalLine "github_token" s.githubToken ++
    line "store_path" (Toml.stringText s.storePath.text) ++
    line "no_color" (boolText s.noColor) ++
    optionalLine "package_manager" s.packageManager

/-- Takes one entry of a file; keys that are not known have no meaning. -/
def takeEntry (s : Settings) (entry : String × Toml) : Option Settings :=
  match entry with
  | ("github_token", .string value) => some { s with githubToken := some value }
  | ("github_token", _) => none
  | ("store_path", .string value) => some { s with storePath := ⟨value⟩ }
  | ("store_path", _) => none
  | ("no_color", .bool value) => some { s with noColor := value }
  | ("no_color", _) => none
  | ("package_manager", .string value) => some { s with packageManager := some value }
  | ("package_manager", _) => none
  | _ => some s

/-- The settings that a file states, from those that hold without it. -/
def ofText? (start : Settings) (text : String) : Option Settings := do
  (← Toml.parse text).foldlM takeEntry start

/-- The settings in a file; a missing file states none. -/
def read (env : Environment) (disk : Disk) (path : Path) : Except CommandError Settings :=
  if disk.occupied path then
    match disk.read path with
    | .error e =>
        .error (.system ("Failed to read config '" ++ path.text ++ "'") e.message)
    | .ok text =>
        match ofText? (default env) text with
        | some s => .ok s
        | none =>
            .error (.configuration ("Failed to parse '" ++ path.text ++ "': invalid TOML")
              (some "invalid TOML"))
  else .ok (default env)

/-- Writes the settings to a file, creating its directory. -/
def write (s : Settings) (path : Path) (disk : Disk) : Except CommandError Unit × Disk :=
  match Disk.makeParents path disk with
  | (.error e, disk) =>
      let parent := path.parentD.text
      (.error (.system s!"Failed to create config directory '{parent}'" e.message), disk)
  | (.ok (), disk) =>
      match Disk.write path s.text disk with
      | .error e =>
          (.error (.system ("Failed to write config to '" ++ path.text ++ "'") e.message), disk)
      | .ok disk => (.ok (), disk)

end Settings
end Scaffold
