import Scaffold.CommandLine.Error
import Scaffold.Files.Disk

/-!
# Package managers

The manager of a project is the one that the configuration names, or else the one that the program
was started from, or else the one whose lock file lies in the project.
-/

namespace Scaffold

inductive PackageManager where
  | npm
  | pnpm
  | yarn
  | bun
deriving DecidableEq, Repr

namespace PackageManager

def all : List PackageManager := [.npm, .pnpm, .yarn, .bun]

def name : PackageManager → String
  | .npm => "npm"
  | .pnpm => "pnpm"
  | .yarn => "yarn"
  | .bun => "bun"

/-- Names are read without the blanks around them, in any case of the letters of ASCII. -/
def normalName (text : String) : String :=
  String.ofList ((Text.trimChars text.toList).map Char.toLower)

def ofName? (text : String) : Option PackageManager :=
  all.find? fun manager => manager.name == normalName text

def parse (text : String) : Except CommandError PackageManager :=
  match ofName? text with
  | some manager => .ok manager
  | none =>
      let name := normalName text
      .error (.invalidInput
        s!"unknown package manager '{name}' (expected npm, pnpm, yarn or bun)" none)

/-- A user agent starts with the name of the program and a slash. -/
def ofUserAgent? (agent : String) : Option PackageManager :=
  ofName? (String.ofList (agent.toList.takeWhile (· != '/')))

/-- The lock files, the ones that decide first at the front. -/
def lockFiles : List (String × PackageManager) :=
  [ ("pnpm-lock.yaml", .pnpm), ("yarn.lock", .yarn), ("bun.lockb", .bun), ("bun.lock", .bun) ]

def ofLockFiles? (disk : Disk) (root : Path) : Option PackageManager :=
  (lockFiles.find? fun entry => disk.occupied (root.push entry.1)).map Prod.snd

def detect (configured userAgent : Option String) (disk : Disk) (root : Path) :
    PackageManager :=
  (configured.bind ofName? <|> userAgent.bind ofUserAgent? <|> ofLockFiles? disk root).getD .npm

/-- The program and the arguments that add packages. -/
def addCommand (manager : PackageManager) (packages : List String) : String × List String :=
  let verb := if manager = .npm then "install" else "add"
  (manager.name, verb :: packages)

def registryPackage : String := "shadcn@latest"

/-- The program and the arguments that add components of the registry. -/
def registryCommand (manager : PackageManager) (components : List String) :
    String × List String :=
  let rest := registryPackage :: "add" :: components
  match manager with
  | .npm => ("npx", rest)
  | .pnpm => ("pnpm", "dlx" :: rest)
  | .yarn => ("yarn", "dlx" :: rest)
  | .bun => ("bunx", "--bun" :: rest)

end PackageManager
end Scaffold
