import Scaffold.Files.Basic
import Scaffold.Files.Disk

/-!
# Files on a disk

Relative paths are taken from one directory.  An error names the path that was used and what was to
be done with it.
-/

namespace Scaffold

structure DiskFiles where
  disk : Disk
  root : Path
deriving Repr

namespace DiskFiles

def full (tree : DiskFiles) (path : Path) : Path :=
  if path.isAbsolute then path else tree.root.join path

def failure (path : Path) (operation : String) (e : SystemError) : RunError :=
  .service (.files path ("Failed to " ++ operation ++ ": " ++ e.message))

def read (tree : DiskFiles) (path : Path) : Except RunError String :=
  (tree.disk.read (tree.full path)).mapError (failure (tree.full path) "read file")

/-- Creates the directories above the path and then does the rest; the directories stay even when
that fails. -/
def change (tree : DiskFiles) (path : Path) (operation : String)
    (act : Path → Disk → Except SystemError Disk) : Except RunError Unit × DiskFiles :=
  let full := tree.full path
  match Disk.makeParents full tree.disk with
  | (.error e, disk) => (.error (failure full.parentD "create directory" e), { tree with disk })
  | (.ok (), disk) =>
      match act full disk with
      | .error e => (.error (failure full operation e), { tree with disk })
      | .ok disk => (.ok (), { tree with disk })

instance : FileTree DiskFiles where
  occupied tree path := tree.disk.occupied (tree.full path)
  isDirectory tree path := tree.disk.isDirectory (tree.full path)
  read := read
  write path content tree := tree.change path "write file" (Disk.write · content)
  append path content tree := tree.change path "append to file" (Disk.append · content)

end DiskFiles
end Scaffold
