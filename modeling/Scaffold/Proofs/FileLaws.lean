import Scaffold.Files.Memory

/-!
# Laws of files in memory

What is put at one place is found there under all spellings of it, and every other place keeps what
it has.
-/

namespace Scaffold
namespace MemoryFiles

variable {files : List (Place × String)} {place other : Place} {content : String}

theorem lookup_insert_of_ne (hne : other ≠ place) :
    (insert place content files).lookup other = files.lookup other := by
  have hplace : (other == place) = false := by simpa using hne
  induction files with
  | nil => simp [insert, List.lookup_cons, hplace]
  | cons entry rest ih =>
      obtain ⟨first, text⟩ := entry
      unfold insert
      by_cases hfirst : first = place
      · subst hfirst
        simp [List.lookup_cons, hplace]
      · rw [if_neg hfirst]
        simp only [List.lookup_cons, ih]

theorem lookup_insert_self (place : Place) (content : String) (files : List (Place × String)) :
    (insert place content files).lookup place = some content := by
  induction files with
  | nil => simp [insert]
  | cons entry rest ih =>
      obtain ⟨first, text⟩ := entry
      unfold insert
      by_cases hfirst : first = place
      · subst hfirst
        simp
      · have hplace : (place == first) = false := by simpa using Ne.symm hfirst
        rw [if_neg hfirst, List.lookup_cons, hplace]
        exact ih

variable {tree : MemoryFiles} {path file : Path}

@[simp] theorem files_withDirectories (places : List Place) (tree : MemoryFiles) :
    (tree.withDirectories places).files = tree.files := rfl

theorem get?_put_of_ne (hne : file.key ≠ path.key) :
    (tree.put path content).get? file = tree.get? file := by
  rw [get?, get?, put, files_withDirectories, lookup_insert_of_ne hne]

theorem get?_put_self (path : Path) (content : String) (tree : MemoryFiles) :
    (tree.put path content).get? path = some content := by
  rw [get?, put, files_withDirectories, lookup_insert_self]

theorem get?_congr (hkey : path.key = file.key) : tree.get? path = tree.get? file := by
  rw [get?, get?, hkey]

theorem occupied_of_get? (hfile : tree.get? file = some content) (hkey : path.key = file.key) :
    tree.occupied path = true := by
  rw [occupied, get?_congr hkey, hfile]
  rfl

end MemoryFiles
end Scaffold
