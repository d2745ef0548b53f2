import Mathlib.Data.List.Range
import Scaffold.Proofs.FileLaws
import Scaffold.Proofs.Pieces

/-!
# Histories of files in memory

A tree in memory is what its changes make of it, one after the other.  A file holds what was put
there last and all that was added to it later, and the directories are the places above the files
and at or above the directories that were seeded.  No change is refused, so that a place above a
file can have become a file as well.
-/

namespace Scaffold

theorem Path.Component.named_injective : Function.Injective Component.named := by
  intro first second heq
  have htext := congrArg Component.text heq
  rwa [text_named, text_named] at htext

/-- Two spellings name one place when they start alike and name the same things in the same order. -/
theorem Path.key_eq_key_iff {p q : Path} :
    p.key = q.key ↔ p.isAbsolute = q.isAbsolute ∧ p.names = q.names := by
  have hnames : p.body = q.body ↔ p.names = q.names := by
    rw [body_eq, body_eq]
    exact (List.map_injective_iff.mpr Component.named_injective).eq_iff
  have hroot (r : Path) : Component.root ∉ r.body := by
    rw [body_eq, List.mem_map]
    rintro ⟨piece, -, heq⟩
    exact Component.named_ne_root piece heq
  rw [← hnames, key_eq, key_eq]
  by_cases hp : p.isAbsolute = true <;> by_cases hq : q.isAbsolute = true
  · simp [hp, hq]
  · rw [if_pos hp, if_neg hq]
    constructor
    · intro heq
      have hmem : Component.root ∈ [] ++ q.body := heq ▸ List.mem_cons_self
      exact absurd hmem (hroot q)
    · rintro ⟨heq, -⟩
      exact absurd (heq ▸ hp) hq
  · rw [if_neg hp, if_pos hq]
    constructor
    · intro heq
      have hmem : Component.root ∈ [] ++ p.body := heq ▸ List.mem_cons_self
      exact absurd hmem (hroot p)
    · rintro ⟨heq, -⟩
      exact absurd (heq ▸ hq) hp
  · simp [hp, hq]

theorem Place.mem_above_iff {upper place : Place} :
    upper ∈ above place ↔ upper ≠ [] ∧ upper <+: place ∧ upper ≠ place := by
  have hrange : (List.range place.length).tail = List.range' 1 (place.length - 1) := by
    rw [List.range_eq_range', List.tail_range']
  rw [above, hrange, List.mem_map]
  constructor
  · rintro ⟨n, hn, rfl⟩
    rw [List.mem_range'_1] at hn
    have hlength : (place.take n).length = n := by
      rw [List.length_take]
      omega
    refine ⟨?_, List.take_prefix n place, ?_⟩
    · apply List.ne_nil_of_length_pos
      omega
    · intro heq
      rw [heq] at hlength
      omega
  · rintro ⟨hfull, hfront, hne⟩
    have hpos := List.length_pos_of_ne_nil hfull
    have hlt : upper.length < place.length := by
      apply lt_of_le_of_ne hfront.length_le
      exact fun heq => hne (hfront.eq_of_length heq)
    refine ⟨upper.length, ?_, (List.prefix_iff_eq_take.mp hfront).symm⟩
    rw [List.mem_range'_1]
    omega

namespace MemoryFiles

variable {tree : MemoryFiles} {path : Path} {place : Place} {content text : String}

theorem mem_directories_withDirectories {places : List Place} :
    place ∈ (tree.withDirectories places).directories ↔
      place ∈ tree.directories ∨ place ∈ places := by
  have hfold (known : List Place) :
      place ∈ places.foldl (fun ds p => if ds.contains p then ds else p :: ds) known ↔
        place ∈ known ∨ place ∈ places := by
    induction places generalizing known with
    | nil => simp
    | cons first rest ih =>
        rw [List.foldl_cons, ih]
        by_cases hfirst : first ∈ known
        · have hself : place = first → place ∈ known := fun heq => heq ▸ hfirst
          simp only [List.contains_iff_mem, hfirst, if_true, List.mem_cons]
          tauto
        · simp only [List.contains_iff_mem, hfirst, if_false, List.mem_cons]
          tauto
  exact hfold tree.directories

/-- What a tree is seeded with, and what is written later. -/
inductive Change where
  | seed (path : Path) (content : String)
  | seedDirectory (path : Path)
  | write (path : Path) (content : String)
  | append (path : Path) (content : String)

namespace Change

def apply : Change → MemoryFiles → MemoryFiles
  | .seed path content, tree => tree.put path content
  | .seedDirectory path, tree => tree.putDirectory path
  | .write path content, tree => (FileTree.write path content tree).2
  | .append path content, tree => (FileTree.append path content tree).2

def file? : Change → Option Path
  | .seed path _ => some path
  | .write path _ => some path
  | .append path _ => some path
  | .seedDirectory _ => none

def directory? : Change → Option Path
  | .seedDirectory path => some path
  | _ => none

/-- The text that takes the place of all that was there. -/
def puts? (place : Place) : Change → Option String
  | .seed path content => if path.key = place then some content else none
  | .write path content => if path.key = place then some content else none
  | _ => none

def adds? (place : Place) : Change → Option String
  | .append path content => if path.key = place then some content else none
  | _ => none

/-- There is a file at the place after the change. -/
def Fills (place : Place) (change : Change) : Prop := ∃ file ∈ change.file?, file.key = place

/-- There is a directory at the place after the change: the place lies above the file, or at or
above the directory, and is not the empty one. -/
def MakesDirectory (upper : Place) (change : Change) : Prop :=
  upper ≠ [] ∧ ((∃ file ∈ change.file?, upper <+: file.key ∧ upper ≠ file.key) ∨
    ∃ directory ∈ change.directory?, upper <+: directory.key)

variable {change : Change}

theorem directory?_eq_none {file : Path} (hfile : change.file? = some file) :
    change.directory? = none := by
  cases change with
  | seedDirectory directory => cases hfile
  | _ => rfl

theorem not_fills_of_makesDirectory (hmakes : change.MakesDirectory place) :
    ¬change.Fills place := by
  rintro ⟨file, hfile, rfl⟩
  rcases hmakes.2 with ⟨other, hother, -, hne⟩ | ⟨directory, hdirectory, -⟩
  · rw [hfile] at hother
    obtain rfl := Option.some.inj hother
    exact hne rfl
  · rw [directory?_eq_none hfile] at hdirectory
    cases hdirectory

theorem fills_iff : change.Fills place ↔
    (∃ content, change.puts? place = some content) ∨ ∃ content, change.adds? place = some content := by
  cases change <;> simp [Fills, file?, puts?, adds?]

theorem get?_apply_of_puts (hputs : change.puts? path.key = some content) :
    (change.apply tree).get? path = some content := by
  have hput {file : Path} {put : String}
      (hfile : (if file.key = path.key then some put else none) = some content) :
      (tree.put file put).get? path = some content := by
    by_cases hkey : file.key = path.key
    · rw [if_pos hkey] at hfile
      rw [get?_congr hkey.symm, get?_put_self, hfile]
    · rw [if_neg hkey] at hfile
      cases hfile
  cases change with
  | seed file put => exact hput hputs
  | write file put => exact hput hputs
  | seedDirectory directory => cases hputs
  | append file more => cases hputs

theorem get?_apply_of_adds (hadds : change.adds? path.key = some content) :
    (change.apply tree).get? path = some ((tree.get? path).getD "" ++ content) := by
  cases change with
  | append file more =>
      by_cases hkey : file.key = path.key
      · obtain rfl : more = content := by simpa [adds?, hkey] using hadds
        have hbefore : tree.get? path = tree.get? file := get?_congr hkey.symm
        rw [hbefore, get?_congr hkey.symm]
        exact get?_put_self file ((tree.get? file).getD "" ++ more) tree
      · simp [adds?, hkey] at hadds
  | seed file put => cases hadds
  | write file put => cases hadds
  | seedDirectory directory => cases hadds

theorem exists_apply_eq_put {file : Path} (hfile : change.file? = some file) (tree : MemoryFiles) :
    ∃ content, change.apply tree = tree.put file content := by
  cases change with
  | seedDirectory directory => cases hfile
  | _ =>
      obtain rfl := Option.some.inj hfile
      exact ⟨_, rfl⟩

theorem get?_apply_of_not_fills (hother : ¬change.Fills path.key) (tree : MemoryFiles) :
    (change.apply tree).get? path = tree.get? path := by
  rcases hfile : change.file? with _ | file
  · cases change with
    | seedDirectory directory => rfl
    | _ => cases hfile
  · obtain ⟨content, happly⟩ := exists_apply_eq_put hfile tree
    rw [happly]
    apply get?_put_of_ne
    exact fun heq => hother ⟨file, hfile, heq.symm⟩

theorem isSome_get?_apply_iff :
    ((change.apply tree).get? path).isSome ↔ (tree.get? path).isSome ∨ change.Fills path.key := by
  by_cases hfills : change.Fills path.key
  · obtain ⟨file, hfile, hkey⟩ := hfills
    obtain ⟨content, happly⟩ := exists_apply_eq_put hfile tree
    have hthere : (change.apply tree).get? path = some content := by
      rw [happly, get?_congr hkey.symm, get?_put_self]
    simp only [hthere, Option.isSome_some, true_iff]
    exact Or.inr ⟨file, hfile, hkey⟩
  · rw [get?_apply_of_not_fills hfills]
    simp [hfills]

theorem mem_directories_apply :
    place ∈ (change.apply tree).directories ↔
      place ∈ tree.directories ∨ change.MakesDirectory place := by
  rcases hfile : change.file? with _ | file
  · cases change with
    | seedDirectory directory =>
        have hplaces : (place ∈ if directory.key.isEmpty then [] else
            Place.above directory.key ++ [directory.key]) ↔
            place ≠ [] ∧ place <+: directory.key := by
          by_cases hempty : directory.key = []
          · simp [hempty]
          · rw [if_neg (by simpa using hempty), List.mem_append, Place.mem_above_iff,
              List.mem_singleton]
            by_cases hself : place = directory.key
            · simp [hself, hempty]
            · simp [hself]
        rw [apply, putDirectory, mem_directories_withDirectories, hplaces]
        simp [MakesDirectory, file?, directory?]
    | _ => cases hfile
  · obtain ⟨content, happly⟩ := exists_apply_eq_put hfile tree
    rw [happly, put, mem_directories_withDirectories, Place.mem_above_iff]
    simp [MakesDirectory, hfile, directory?_eq_none hfile]

end Change

/-- The tree after the changes, the first one first. -/
def changed (changes : List Change) (tree : MemoryFiles) : MemoryFiles :=
  changes.foldl (fun before change => change.apply before) tree

/-- The texts that are added at the place, one behind the other. -/
def added (place : Place) (changes : List Change) : String :=
  String.join (changes.filterMap (Change.adds? place))

/-- The text is what was put at the place last, with all behind it that was added later; where
nothing was put, it is all that was added. -/
inductive Leaves (place : Place) : List Change → String → Prop where
  | put {front back : List Change} {change : Change} {content : String}
      (hputs : change.puts? place = some content)
      (hback : ∀ later ∈ back, later.puts? place = none) :
      Leaves place (front ++ change :: back) (content ++ added place back)
  | added {changes : List Change} (hnone : ∀ change ∈ changes, change.puts? place = none)
      (hfills : ∃ change ∈ changes, change.Fills place) : Leaves place changes (added place changes)

theorem added_cons (place : Place) (change : Change) (rest : List Change) :
    added place (change :: rest) = (change.adds? place).getD "" ++ added place rest := by
  rcases hadds : change.adds? place with _ | content
  · simp [added, List.filterMap_cons_none hadds]
  · simp [added, List.filterMap_cons_some hadds, String.join_cons]

section Histories

variable {changes back : List Change}

theorem changed_cons (change : Change) (rest : List Change) (tree : MemoryFiles) :
    tree.changed (change :: rest) = (change.apply tree).changed rest := rfl

theorem changed_append (front back : List Change) (tree : MemoryFiles) :
    tree.changed (front ++ back) = (tree.changed front).changed back := List.foldl_append

/-- Where nothing is put any more, a file is what was there with all that is added. -/
theorem get?_changed_of_puts_none (hnone : ∀ change ∈ changes, change.puts? path.key = none)
    (hfile : (tree.get? path).isSome ∨ ∃ change ∈ changes, change.Fills path.key) :
    (tree.changed changes).get? path =
      some ((tree.get? path).getD "" ++ added path.key changes) := by
  -- From any tree: the first text that is added may begin a file or go behind one.
  induction changes generalizing tree with
  | nil =>
      obtain ⟨text, hthere⟩ : ∃ text, tree.get? path = some text := by
        simpa [Option.isSome_iff_exists] using hfile
      simp [changed, added, hthere]
  | cons change rest ih =>
      rw [List.forall_mem_cons] at hnone
      rw [List.exists_mem_cons_iff] at hfile
      rw [changed_cons, added_cons]
      rcases hadds : change.adds? path.key with _ | content
      · have hother : ¬change.Fills path.key := by simp [Change.fills_iff, hnone.1, hadds]
        have hsame : (change.apply tree).get? path = tree.get? path :=
          Change.get?_apply_of_not_fills hother tree
        rw [Option.getD_none, String.empty_append, ← hsame]
        apply ih hnone.2
        rw [hsame]
        exact hfile.imp_right fun hfills => hfills.resolve_left hother
      · have hthere : (change.apply tree).get? path = some ((tree.get? path).getD "" ++ content) :=
          Change.get?_apply_of_adds hadds
        rw [ih hnone.2 (Or.inl (by simp [hthere])), hthere]
        simp [String.append_assoc]

theorem get?_changed_of_leaves (hleaves : Leaves path.key changes text) :
    (empty.changed changes).get? path = some text := by
  cases hleaves with
  | @put front back change content hputs hback =>
      have hput : (change.apply (empty.changed front)).get? path = some content :=
        Change.get?_apply_of_puts hputs
      rw [changed_append, changed_cons, get?_changed_of_puts_none hback (by simp [hput]), hput]
      rfl
  | added hnone hfills =>
      rw [get?_changed_of_puts_none hnone (Or.inr hfills)]
      simp [get?, empty]

theorem exists_leaves (hfills : ∃ change ∈ changes, change.Fills place) :
    ∃ text, Leaves place changes text := by
  induction changes with
  | nil => simp at hfills
  | cons change rest ih =>
      by_cases hput : ∃ later ∈ rest, ∃ content, later.puts? place = some content
      · -- The last text that is put is found behind the first change.
        obtain ⟨later, hlater, content, hputs⟩ := hput
        obtain ⟨text, hleaves⟩ := ih ⟨later, hlater, Change.fills_iff.mpr (Or.inl ⟨content, hputs⟩)⟩
        cases hleaves with
        | @put front back _ _ hputs hback =>
            rw [← List.cons_append]
            exact ⟨_, .put hputs hback⟩
        | added hnone _ =>
            rw [hnone later hlater] at hputs
            cases hputs
      · have hrest : ∀ later ∈ rest, later.puts? place = none := by
          intro later hlater
          rw [Option.eq_none_iff_forall_ne_some]
          exact fun content hputs => hput ⟨later, hlater, content, hputs⟩
        rcases hputs : change.puts? place with _ | content
        · refine ⟨_, .added ?_ hfills⟩
          rw [List.forall_mem_cons]
          exact ⟨hputs, hrest⟩
        · rw [← List.nil_append (change :: rest)]
          exact ⟨_, .put hputs hrest⟩

theorem isSome_get?_changed_iff :
    ((tree.changed changes).get? path).isSome ↔
      (tree.get? path).isSome ∨ ∃ change ∈ changes, change.Fills path.key := by
  induction changes generalizing tree with
  | nil => simp [changed]
  | cons change rest ih =>
      rw [changed_cons, ih, Change.isSome_get?_apply_iff, List.exists_mem_cons_iff, or_assoc]

theorem mem_directories_changed :
    place ∈ (tree.changed changes).directories ↔
      place ∈ tree.directories ∨ ∃ change ∈ changes, change.MakesDirectory place := by
  induction changes generalizing tree with
  | nil => simp [changed]
  | cons change rest ih =>
      rw [changed_cons, ih, Change.mem_directories_apply, List.exists_mem_cons_iff, or_assoc]

end Histories

theorem read_eq_ok_iff : tree.read path = .ok text ↔ tree.get? path = some text := by
  unfold read
  rcases tree.get? path with _ | content <;> simp

theorem read_eq_error_iff :
    tree.read path = .error (.service (.files path "Failed to read file: not found")) ↔
      tree.get? path = none := by
  unfold read
  rcases tree.get? path with _ | content <;> simp

theorem isDirectory_iff : tree.isDirectory path = true ↔ path.key ∈ tree.directories := by
  simp [isDirectory]

theorem isSome_get?_history_iff {changes : List Change} :
    ((empty.changed changes).get? path).isSome ↔ ∃ change ∈ changes, change.Fills path.key := by
  rw [isSome_get?_changed_iff]
  simp [get?, empty]

theorem isDirectory_history_iff {changes : List Change} :
    (empty.changed changes).isDirectory path = true ↔
      ∃ change ∈ changes, change.MakesDirectory path.key := by
  rw [isDirectory_iff, mem_directories_changed]
  simp [empty]

/-- A history says all about the tree that it leaves.  Reading gives the text that was put last with
all that was added later, and fails where no text came; changes of other places do not matter; the
directories are those that the changes make; and all spellings of a place are one. -/
theorem tree_of_history (changes : List Change) (path : Path) :
    let tree := empty.changed changes
    (∀ text, tree.read path = .ok text ↔ Leaves path.key changes text) ∧
    (tree.read path = .error (.service (.files path "Failed to read file: not found")) ↔
      ∀ change ∈ changes, ¬change.Fills path.key) ∧
    (∀ change : Change, ¬change.Fills path.key → (change.apply tree).read path = tree.read path) ∧
    (tree.isDirectory path = true ↔ ∃ change ∈ changes, change.MakesDirectory path.key) ∧
    ∀ other : Path, path.key = other.key ↔
      path.isAbsolute = other.isAbsolute ∧ path.names = other.names := by
  intro tree
  have hthere : (tree.get? path).isSome ↔ ∃ change ∈ changes, change.Fills path.key :=
    isSome_get?_history_iff
  refine ⟨fun text => ?_, ?_, fun change hother => ?_, isDirectory_history_iff,
    fun other => Path.key_eq_key_iff⟩
  · rw [read_eq_ok_iff]
    constructor
    · intro hget
      have hfills := hthere.mp (by rw [hget]; rfl)
      obtain ⟨left, hleaves⟩ := exists_leaves hfills
      have hleft : tree.get? path = some left := get?_changed_of_leaves hleaves
      rw [hget] at hleft
      obtain rfl := Option.some.inj hleft
      exact hleaves
    · exact get?_changed_of_leaves
  · rw [read_eq_error_iff, ← Option.not_isSome_iff_eq_none, hthere]
    push Not
    rfl
  · rw [read, read, Change.get?_apply_of_not_fills hother]

/-- The working directory has no place among the directories. -/
theorem seeded_point_is_no_directory :
    (Change.seedDirectory ⟨"."⟩).directory? = some ⟨"."⟩ ∧
      (empty.changed [.seedDirectory ⟨"."⟩]).isDirectory ⟨"."⟩ = false := by
  decide

/-- Nothing that can be read is a directory. -/
def IsApart (tree : MemoryFiles) : Prop :=
  ∀ path text, tree.read path = .ok text → tree.isDirectory path = false

theorem isApart_iff :
    tree.IsApart ↔ ∀ path, ¬((tree.get? path).isSome ∧ tree.isDirectory path = true) := by
  unfold IsApart
  constructor
  · rintro hapart path ⟨hfile, hdirectory⟩
    obtain ⟨text, hget⟩ := Option.isSome_iff_exists.mp hfile
    rw [hapart path text (read_eq_ok_iff.mpr hget)] at hdirectory
    cases hdirectory
  · intro hapart path text hread
    rw [Bool.eq_false_iff]
    intro hdirectory
    apply hapart path
    rw [read_eq_ok_iff.mp hread]
    exact ⟨rfl, hdirectory⟩

/-- A change keeps files and directories apart when its file is no directory and no file stands
where it makes a directory. -/
theorem Change.isApart_apply_iff (change : Change) (tree : MemoryFiles) :
    (change.apply tree).IsApart ↔ tree.IsApart ∧
      (∀ file ∈ change.file?, tree.isDirectory file = false) ∧
      ∀ path : Path, change.MakesDirectory path.key → tree.get? path = none := by
  simp only [isApart_iff, isDirectory_iff, isSome_get?_apply_iff, mem_directories_apply]
  constructor
  · intro hapart
    refine ⟨fun path hboth => ?_, fun file hfile => ?_, fun path hmakes => ?_⟩
    · exact hapart path ⟨Or.inl hboth.1, Or.inl hboth.2⟩
    · rw [Bool.eq_false_iff]
      intro hdirectory
      exact hapart file ⟨Or.inr ⟨file, hfile, rfl⟩, Or.inl (isDirectory_iff.mp hdirectory)⟩
    · rw [← Option.not_isSome_iff_eq_none]
      exact fun hfile => hapart path ⟨Or.inl hfile, Or.inr hmakes⟩
  · -- The file and the directory may each be old or new; a change alone makes no clash.
    rintro ⟨hapart, hfree, hnone⟩ path ⟨hfile | hfills, hdirectory | hmakes⟩
    · exact hapart path ⟨hfile, hdirectory⟩
    · rw [hnone path hmakes] at hfile
      cases hfile
    · obtain ⟨file, hfile, hkey⟩ := hfills
      have hclash := hfree file hfile
      rw [Bool.eq_false_iff, Ne, isDirectory_iff, hkey] at hclash
      exact hclash hdirectory
    · exact not_fills_of_makesDirectory hmakes hfills

/-- A place is a file and a directory at once just when one change puts a text there and another one
makes a directory of it, in whatever order.  A change makes the first such place in one of two ways:
its file is a directory already, or it makes a directory where a file is. -/
theorem clashes_of_history (changes : List Change) :
    let tree := empty.changed changes
    (∀ path, (∃ text, tree.read path = .ok text) ∧ tree.isDirectory path = true ↔
      (∃ upper ∈ changes, upper.Fills path.key) ∧
        ∃ lower ∈ changes, lower.MakesDirectory path.key) ∧
    ∀ change : Change, (change.apply tree).IsApart ↔ tree.IsApart ∧
      (∀ file ∈ change.file?, tree.isDirectory file = false) ∧
      ∀ path : Path, change.MakesDirectory path.key → tree.get? path = none := by
  intro tree
  refine ⟨fun path => ?_, fun change => change.isApart_apply_iff tree⟩
  simp only [read_eq_ok_iff, ← Option.isSome_iff_exists]
  rw [isSome_get?_history_iff, isDirectory_history_iff]

theorem file_above_file :
    let tree := empty.changed [.write ⟨"a"⟩ "x", .write ⟨"a/b"⟩ "y"]
    tree.read ⟨"a"⟩ = .ok "x" ∧ tree.isDirectory ⟨"a"⟩ = true := by
  decide

end MemoryFiles
end Scaffold
