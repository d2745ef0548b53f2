import Scaffold.Files.OnDisk
import Scaffold.Json.Parser
import Scaffold.Run.Session

/-!
# The store file

The store is kept as a JSON object in a file of its own.  A file that is missing or blank is an
empty store.
-/

namespace Scaffold

structure StoreFile where
  path : Path
deriving DecidableEq, Repr

namespace StoreFile

def failure (file : StoreFile) (reason : String) : RunError := .service (.store file.path reason)

/-- The table that a text holds. -/
def parse (file : StoreFile) (text : String) : Except RunError VariableTable :=
  if Text.trim text = "" then .ok .empty
  else
    match Json.parse text with
    | .error e => .error (file.failure e.message)
    | .ok v =>
        match VariableTable.ofJson? v with
        | some table => .ok table
        | none => .error (file.failure "expected a JSON object")

def load (file : StoreFile) (disk : Disk) : Except RunError VariableTable :=
  if disk.occupied file.path then
    match disk.read file.path with
    | .error e => .error (file.failure e.message)
    | .ok text => file.parse text
  else .ok .empty

/-- The text that is written for a table. -/
def text (table : VariableTable) : String := table.toJson.pretty

def save (file : StoreFile) (table : VariableTable) (disk : Disk) :
    Except RunError Unit × Disk :=
  match Disk.makeParents file.path disk with
  | (.error e, disk) => (.error (file.failure e.message), disk)
  | (.ok (), disk) =>
      match Disk.write file.path (text table) disk with
      | .error e => (.error (file.failure e.message), disk)
      | .ok disk => (.ok (), disk)

end StoreFile

/-- A project on a disk with a store file on the same disk. -/
structure Project where
  files : DiskFiles
  store : StoreFile

instance : FileTree Project where
  occupied p path := FileTree.occupied p.files path
  isDirectory p path := FileTree.isDirectory p.files path
  read p path := FileTree.read p.files path
  write path content p :=
    let (outcome, files) := FileTree.write path content p.files
    (outcome, { p with files })
  append path content p :=
    let (outcome, files) := FileTree.append path content p.files
    (outcome, { p with files })

instance : Repository Project where
  loadStore p := p.store.load p.files.disk
  saveStore table p :=
    let (outcome, disk) := p.store.save table p.files.disk
    (outcome, { p with files := { p.files with disk } })

end Scaffold
