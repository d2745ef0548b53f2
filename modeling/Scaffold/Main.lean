import Scaffold.CommandLine.Program

/-!
# Starting the program

Reads the environment and the files that a start can touch, lets the program work on them as values,
and writes back what has changed.  There is no terminal to ask on and no web to fetch from.
-/

namespace Scaffold
namespace Host

/-- The variables that have a meaning for the program. -/
def variableNames : List String :=
  [ "HOME", "XDG_CONFIG_HOME", "NO_COLOR", "npm_config_user_agent", "SCAFLO_GITHUB_TOKEN",
    "SCAFLO_STORE_PATH", "SCAFLO_NO_COLOR", "SCAFLO_PACKAGE_MANAGER" ]

def readEnvironment : IO Environment :=
  variableNames.filterMapM fun name => do
    return (← IO.getEnv name).map fun value => (name, value)

def locationOf (text : String) : Location := (Path.mk text).pieces.filter (· != "")

def textOf (location : Location) : String := "/" ++ "/".intercalate location

/-- How deep directories are read. -/
def depthLimit : Nat := 32

/-- What lies at a location and below it.  A file that is no text counts as an empty one. -/
def readEntries : Nat → Location → IO (List (Location × DiskEntry))
  | 0, _ => return []
  | bound + 1, location => do
      let path := (← IO.currentDir) / textOf location
      if ← path.isDir then
        let names := (← path.readDir).toList.map IO.FS.DirEntry.fileName
        let below ← names.mapM fun name => readEntries bound (location ++ [name])
        return (location, .directory) :: below.flatten
      else if ← path.pathExists then
        let content ← try IO.FS.readFile path catch _ => pure ""
        return [(location, .file content)]
      else return []

/-- The places that a start can touch: the current directory, the directories of the settings and of
the store, and what the arguments name. -/
def places (env : Environment) (here : Location) (arguments : List String) : List Location :=
  let named := arguments.filter fun argument => (Path.mk argument).isAbsolute
  here ::
    ([env.configPath.parentD.text, env.storePath.parentD.text] ++ named).map locationOf

/-- A place with the directories above it, if there is anything. -/
def readPlace (place : Location) : IO (List (Location × DiskEntry)) := do
  let entries ← readEntries depthLimit place
  return if entries.isEmpty then [] else entries ++ (Disk.rootedAt place.dropLast).entries

/-- The disk as far as a start can touch it. -/
def readDisk (env : Environment) (here : Location) (arguments : List String) : IO Disk := do
  let found ← (places env here arguments).mapM readPlace
  return { entries := found.flatten, current := here }

/-- Writes the entries that are new or have changed. -/
def writeChanges (before after : Disk) : IO Unit :=
  after.entries.forM fun (location, entry) => do
    if before.entry? location = some entry then return
    match entry with
    | .directory => IO.FS.createDirAll (textOf location)
    | .file content =>
        IO.FS.createDirAll (textOf location.dropLast)
        IO.FS.writeFile (textOf location) content

def start (arguments : List String) : IO Outcome := do
  let environment ← readEnvironment
  let here := locationOf (← IO.currentDir).toString
  let disk ← readDisk environment here arguments
  let machine : Machine :=
    { environment, disk, web := ⟨[]⟩, prompter := .absent, programs := .absent }
  let (outcome, after) := Program.start arguments machine
  writeChanges disk after
  return outcome

end Host
end Scaffold

def main (arguments : List String) : IO UInt32 := do
  let outcome ← Scaffold.Host.start arguments
  IO.print outcome.output
  IO.eprint outcome.errors
  return outcome.exitCode.toUInt32
