import Scaffold.Error

/-!
# Files

What a run needs of a tree of files.  The tree is a value: reading leaves it as it is, and writing
gives the tree after the write together with the outcome.
-/

namespace Scaffold

class FileTree (ω : Type) where
  /-- Whether there is a file or a directory. -/
  occupied : ω → Path → Bool
  isDirectory : ω → Path → Bool
  read : ω → Path → Except RunError String
  /-- Puts the text in place of the file, creating its directories. -/
  write : Path → String → ω → Except RunError Unit × ω
  /-- Adds the text at the end of the file, creating it and its directories. -/
  append : Path → String → ω → Except RunError Unit × ω

/-- A tree some of whose paths take no more text. -/
structure Limited (ω : Type) where
  tree : ω
  full : List Path

namespace Limited

def refusal (path : Path) : RunError := .service (.files path "disk full")

def guarded {ω : Type} (limited : Limited ω) (path : Path)
    (act : ω → Except RunError Unit × ω) : Except RunError Unit × Limited ω :=
  if limited.full.contains path then (.error (refusal path), limited)
  else
    let (outcome, tree) := act limited.tree
    (outcome, { limited with tree })

instance {ω : Type} [FileTree ω] : FileTree (Limited ω) where
  occupied limited path := FileTree.occupied limited.tree path
  isDirectory limited path := FileTree.isDirectory limited.tree path
  read limited path := FileTree.read limited.tree path
  write path content limited := limited.guarded path (FileTree.write path content)
  append path content limited := limited.guarded path (FileTree.append path content)

end Limited
end Scaffold
