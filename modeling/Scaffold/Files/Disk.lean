import Scaffold.Path

/-!
# A disk

Files and directories by location, with the rules by which paths are followed: every piece but the
last leads through a directory, `..` leads to the directory above, and a path that ends in a slash
or in a point wants a directory.
-/

namespace Scaffold

/-- What the operating system answers to a request that it refuses. -/
inductive SystemError where
  | missing
  | occupied
  | notDirectory
  | isDirectory
  | nameTooLong
  | nulCharacter
deriving DecidableEq, Repr

def SystemError.message : SystemError → String
  | .missing => "No such file or directory (os error 2)"
  | .occupied => "File exists (os error 17)"
  | .notDirectory => "Not a directory (os error 20)"
  | .isDirectory => "Is a directory (os error 21)"
  | .nameTooLong => "File name too long (os error 36)"
  | .nulCharacter => "file name contained an unexpected NUL byte"

/-- The names on the way from the root. -/
abbrev Location := List String

inductive DiskEntry where
  | file (content : String)
  | directory
deriving DecidableEq, Repr

structure Disk where
  entries : List (Location × DiskEntry)
  /-- Where relative paths start. -/
  current : Location
deriving Repr

namespace Disk

/-- The root is a directory on every disk. -/
def entry? (disk : Disk) (location : Location) : Option DiskEntry :=
  if location.isEmpty then some .directory else disk.entries.lookup location

/-- The entries with that one in place of an earlier one, or at the end. -/
def putEntry (location : Location) (entry : DiskEntry) :
    List (Location × DiskEntry) → List (Location × DiskEntry)
  | [] => [(location, entry)]
  | (l, e) :: rest =>
      if l = location then (l, entry) :: rest else (l, e) :: putEntry location entry rest

def put (location : Location) (entry : DiskEntry) (disk : Disk) : Disk :=
  { disk with entries := putEntry location entry disk.entries }

def pathLimit : Nat := 4096

def nameLimit : Nat := 255

/-- Faults that show in the text of a path. -/
def checkText (path : Path) : Except SystemError Unit :=
  if path.chars.contains (Char.ofNat 0) then .error .nulCharacter
  else if path.isEmpty then .error .missing
  else if pathLimit ≤ path.text.utf8ByteSize then .error .nameTooLong
  else .ok ()

/-- Follows one piece from a location that has to be a directory. -/
def step (disk : Disk) (location : Location) (piece : String) : Except SystemError Location :=
  match disk.entry? location with
  | none => .error .missing
  | some (.file _) => .error .notDirectory
  | some .directory =>
      if piece = "" ∨ piece = "." then .ok location
      else if piece = ".." then .ok location.dropLast
      else if nameLimit < piece.utf8ByteSize then .error .nameTooLong
      else
        let next := location ++ [piece]
        if (disk.entry? next).isSome then .ok next else .error .missing

def walk (disk : Disk) (location : Location) (pieces : List String) :
    Except SystemError Location :=
  pieces.foldlM disk.step location

/-- Where a path starts. -/
def start (disk : Disk) (path : Path) : Location :=
  if path.isAbsolute then [] else disk.current

/-- The location and the entry that a path leads to. -/
def find (disk : Disk) (path : Path) : Except SystemError (Location × DiskEntry) := do
  checkText path
  let location ← disk.walk (disk.start path) path.pieces
  match disk.entry? location with
  | some entry => return (location, entry)
  | none => throw .missing

def occupied (disk : Disk) (path : Path) : Bool := (disk.find path).toOption.isSome

def isDirectory (disk : Disk) (path : Path) : Bool :=
  match disk.find path with
  | .ok (_, .directory) => true
  | _ => false

def read (disk : Disk) (path : Path) : Except SystemError String := do
  match ← disk.find path with
  | (_, .file content) => return content
  | (_, .directory) => throw .isDirectory

/-- The pieces of a path in front of the last name and the last name, without slashes at the end. -/
def splitLast (path : Path) : List String × String :=
  let pieces := (path.pieces.reverse.dropWhile (· == "")).reverse
  (pieces.dropLast, (pieces.getLast?).getD "")

def endsInSlash (path : Path) : Bool := path.chars.getLast? == some '/'

/-- The directory in which the last name of the path is looked up, and the name; a path that ends in
`.` or `..`, and the root, have no name. -/
def parentAndName (disk : Disk) (path : Path) :
    Except SystemError (Location × Option String) := do
  checkText path
  let (front, last) := splitLast path
  let parent ← disk.walk (disk.start path) front
  match disk.entry? parent with
  | some .directory =>
      if last = "" ∨ last = "." ∨ last = ".." then return (parent, none)
      else if nameLimit < last.utf8ByteSize then throw .nameTooLong
      else return (parent, some last)
  | some (.file _) => throw .notDirectory
  | none => throw .missing

/-- The location at which a file is to be opened or created, and the text it holds so far. -/
def openForWriting (disk : Disk) (path : Path) : Except SystemError (Location × String) := do
  match ← disk.parentAndName path with
  | (_, none) => throw .isDirectory
  | (parent, some name) =>
      if endsInSlash path then throw .isDirectory
      let location := parent ++ [name]
      match disk.entry? location with
      | some .directory => throw .isDirectory
      | some (.file content) => return (location, content)
      | none => return (location, "")

def write (path : Path) (content : String) (disk : Disk) : Except SystemError Disk := do
  let (location, _) ← disk.openForWriting path
  return disk.put location (.file content)

def append (path : Path) (content : String) (disk : Disk) : Except SystemError Disk := do
  let (location, before) ← disk.openForWriting path
  return disk.put location (.file (before ++ content))

def makeDirectory (path : Path) (disk : Disk) : Except SystemError Disk := do
  match ← disk.parentAndName path with
  | (_, none) => throw .occupied
  | (parent, some name) =>
      let location := parent ++ [name]
      if (disk.entry? location).isSome then throw .occupied
      return disk.put location .directory

/-- A directory that is there already is as good as a new one. -/
def settle (path : Path) (disk : Disk) : Except SystemError Disk → Except SystemError Unit × Disk
  | .ok disk => (.ok (), disk)
  | .error e => (if disk.isDirectory path then .ok () else .error e, disk)

/-- Creates the directory and, where they are missing, those above it.  What has been created stays,
whatever comes after it. -/
def ensureDirectories : Nat → Path → Disk → Except SystemError Unit × Disk
  | 0, _, disk => (.error .missing, disk)
  | bound + 1, path, disk =>
      if path.isEmpty then (.ok (), disk)
      else
        match makeDirectory path disk, path.parent with
        | .error .missing, none => (.error .missing, disk)
        | .error .missing, some parent =>
            match ensureDirectories bound parent disk with
            | (.error e, disk) => (.error e, disk)
            | (.ok (), disk) => settle path disk (makeDirectory path disk)
        | outcome, _ => settle path disk outcome

/-- Creates a directory with all those above it. -/
def makeDirectories (path : Path) (disk : Disk) : Except SystemError Unit × Disk :=
  ensureDirectories (path.components.length + 1) path disk

/-- Creates the directories above the path. -/
def makeParents (path : Path) (disk : Disk) : Except SystemError Unit × Disk :=
  match path.parent with
  | some parent => disk |> makeDirectories parent
  | none => (.ok (), disk)

/-- A disk of nothing but the directory at that location and those above it. -/
def rootedAt (location : Location) : Disk :=
  { entries := (List.range location.length).map fun n => (location.take (n + 1), .directory)
    current := location }

/-- The files below a location with their paths from there, in the order of their names. -/
def filesBelow (disk : Disk) (location : Location) : List (List String × String) :=
  let found := disk.entries.filterMap fun (l, entry) =>
    match entry with
    | .file content =>
        if location.isPrefixOf l then some (l.drop location.length, content) else none
    | .directory => none
  found.mergeSort fun a b => !decide (b.1 < a.1)

end Disk
end Scaffold
