import Scaffold.Path

/-!
# The environment

Variables that the program is started with, and the places that follow from them.
-/

namespace Scaffold

/-- The variables by name; the first entry of a name counts. -/
abbrev Environment := List (String × String)

namespace Environment

def get? (name : String) (env : Environment) : Option String := env.lookup name

/-- The variable with that value, unless it has one already. -/
def withDefault (name value : String) (env : Environment) : Environment :=
  if (env.get? name).isSome then env else env ++ [(name, value)]

/-- The home of the user. -/
def home (env : Environment) : Path :=
  match env.get? "HOME" with
  | some path => if path = "" then ⟨"/root"⟩ else ⟨path⟩
  | none => ⟨"/root"⟩

/-- The directory of configurations; one that is named has to be absolute. -/
def configHome (env : Environment) : Path :=
  match env.get? "XDG_CONFIG_HOME" with
  | some path => if (Path.mk path).isAbsolute then ⟨path⟩ else env.home.push ".config"
  | none => env.home.push ".config"

def configPath (env : Environment) : Path :=
  (env.configHome.push "scaflo").push "config.toml"

def storePath (env : Environment) : Path := (env.home.push ".scaflo").push "store.json"

end Environment
end Scaffold
