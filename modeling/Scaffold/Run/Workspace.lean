import Scaffold.Files.Memory
import Scaffold.Run.Session

/-!
# Workspaces

Files, such as those in memory, beside a store that is a table and counts how often it is saved.
-/

namespace Scaffold

/-- A store in memory; it may refuse to be loaded or saved. -/
structure StoredTable where
  table : VariableTable
  saves : Nat
  loadFailure : Option RunError
  saveFailure : Option RunError
deriving Repr

namespace StoredTable

def ofTable (table : VariableTable) : StoredTable := ⟨table, 0, none, none⟩

def load (store : StoredTable) : Except RunError VariableTable :=
  match store.loadFailure with
  | none => .ok store.table
  | some e => .error e

def save (table : VariableTable) (store : StoredTable) : Except RunError Unit × StoredTable :=
  match store.saveFailure with
  | none => (.ok (), { store with table, saves := store.saves + 1 })
  | some e => (.error e, store)

end StoredTable

/-- Files beside a store in memory. -/
structure Workplace (φ : Type) where
  files : φ
  store : StoredTable

namespace Workplace

variable {φ : Type}

instance [FileTree φ] : FileTree (Workplace φ) where
  occupied w path := FileTree.occupied w.files path
  isDirectory w path := FileTree.isDirectory w.files path
  read w path := FileTree.read w.files path
  write path content w :=
    let (outcome, files) := FileTree.write path content w.files
    (outcome, { w with files })
  append path content w :=
    let (outcome, files) := FileTree.append path content w.files
    (outcome, { w with files })

instance : Repository (Workplace φ) where
  loadStore w := w.store.load
  saveStore table w :=
    let (outcome, store) := w.store.save table
    (outcome, { w with store })

end Workplace

abbrev Workspace := Workplace (Limited MemoryFiles)

end Scaffold
