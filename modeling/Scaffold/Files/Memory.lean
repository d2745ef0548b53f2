import Scaffold.Files.Basic

/-!
# Files in memory

A map from places to contents.  The spellings of one place, with inner points, repeated slashes or a
leading `.`, name one entry.  A directory is what lies above a file that was ever written or above,
or at, a directory that was put there from the start.
-/

namespace Scaffold

/-- The components that name a place. -/
abbrev Place := List Path.Component

namespace Place

/-- The nonempty places above, the uppermost first. -/
def above (place : Place) : List Place :=
  (List.range place.length).tail.map fun n => place.take n

/-- The order of components: the root, then `..`, then names by code points. -/
def componentBefore : Path.Component → Path.Component → Bool
  | .root, .root => false
  | .root, _ => true
  | .current, .root => false
  | .current, .current => false
  | .current, _ => true
  | .up, .name _ => true
  | .up, _ => false
  | .name s, .name t => s < t
  | .name _, _ => false

/-- Places are ordered by their first components that differ. -/
def before : Place → Place → Bool
  | [], [] => false
  | [], _ :: _ => true
  | _ :: _, [] => false
  | a :: as, b :: bs => if a = b then before as bs else componentBefore a b

end Place

structure MemoryFiles where
  files : List (Place × String)
  directories : List Place
deriving Repr, Inhabited

namespace MemoryFiles

def empty : MemoryFiles := ⟨[], []⟩

def get? (tree : MemoryFiles) (path : Path) : Option String := tree.files.lookup path.key

/-- The text takes the place of an earlier one. -/
def insert (place : Place) (content : String) : List (Place × String) → List (Place × String)
  | [] => [(place, content)]
  | (p, c) :: rest =>
      if p = place then (p, content) :: rest else (p, c) :: insert place content rest

def withDirectories (places : List Place) (tree : MemoryFiles) : MemoryFiles :=
  { tree with
    directories := places.foldl (fun ds p => if ds.contains p then ds else p :: ds)
      tree.directories }

/-- The tree with that content at the path, and directories above it. -/
def put (path : Path) (content : String) (tree : MemoryFiles) : MemoryFiles :=
  { tree with files := insert path.key content tree.files }.withDirectories (Place.above path.key)

/-- The tree with a directory at the path, and directories above it. -/
def putDirectory (path : Path) (tree : MemoryFiles) : MemoryFiles :=
  let places := if path.key.isEmpty then [] else Place.above path.key ++ [path.key]
  tree.withDirectories places

def isDirectory (tree : MemoryFiles) (path : Path) : Bool := tree.directories.contains path.key

def occupied (tree : MemoryFiles) (path : Path) : Bool :=
  (tree.get? path).isSome || tree.isDirectory path

def read (tree : MemoryFiles) (path : Path) : Except RunError String :=
  match tree.get? path with
  | some content => .ok content
  | none => .error (.service (.files path "Failed to read file: not found"))

def append (path : Path) (content : String) (tree : MemoryFiles) : MemoryFiles :=
  tree.put path ((tree.get? path).getD "" ++ content)

instance : FileTree MemoryFiles where
  occupied := occupied
  isDirectory := isDirectory
  read := read
  write path content tree := (.ok (), tree.put path content)
  append path content tree := (.ok (), tree.append path content)

/-- All files in the order of their places. -/
def listing (tree : MemoryFiles) : List (Path × String) :=
  (tree.files.mergeSort fun a b => !Place.before b.1 a.1).map fun (place, content) =>
    (Path.ofComponents place, content)

end MemoryFiles
end Scaffold
