import Scaffold.Proofs.Overwriting

/-!
# Contents that are written

A content is written as it stands, unless it is one line with an absolute path at which there is a
file; then the text of that file is written.  A directory at the path is taken for a file, and the
job fails before it has written anything.
-/

namespace Scaffold

open Run

namespace FileWrite

/-- What a file job puts anew or adds. -/
def content? : FileWrite → Option String
  | .overwrite content => some content
  | .append content => some content
  | .replace _ => none

/-- The call that puts the text into the file. -/
def putting (path : Path) (text : String) : FileWrite → ServiceCall
  | .append _ => .append path text
  | _ => .write path text

/-- The text that stays in the file in front of what is put. -/
def kept (tree : MemoryFiles) (path : Path) (write : FileWrite) : String :=
  if write.expectsExisting then (tree.get? path).getD "" else ""

variable {write : FileWrite} {content : String} {path : Path}

theorem target?_putting (path : Path) (text : String) (write : FileWrite) :
    (write.putting path text).target? = some path := by
  cases write <;> rfl

theorem get?_apply_putting (hcontent : write.content? = some content) (text : String)
    (tree : MemoryFiles) :
    ((write.putting path text).apply tree).get? path = some (write.kept tree path ++ text) := by
  cases write with
  | overwrite other =>
      have hput : ((ServiceCall.write path text).apply tree).get? path = some text :=
        MemoryFiles.get?_put_self path text tree
      simpa [kept, expectsExisting, putting] using hput
  | append other => exact MemoryFiles.get?_put_self path _ tree
  | replace pairs => cases hcontent

end FileWrite

namespace MemoryFiles

variable {content text : String} {tree : MemoryFiles}

/-- The text of the file whose absolute path the content is, in one line. -/
def named? (tree : MemoryFiles) (content : String) : Option String :=
  if '\n' ∈ content.toList ∨ (Path.mk content).isAbsolute = false then none
  else tree.get? ⟨content⟩

/-- The content is the absolute path of a directory, in one line, and there is no file. -/
structure NamesDirectory (tree : MemoryFiles) (content : String) : Prop where
  line : '\n' ∉ content.toList
  isAbsolute : (Path.mk content).isAbsolute = true
  isDirectory : tree.isDirectory ⟨content⟩ = true
  noFile : tree.get? ⟨content⟩ = none

/-- The file is read whose text takes the place of the content. -/
def consulted (tree : MemoryFiles) (content : String) : List ServiceEvent :=
  match tree.named? content with
  | some text => [⟨.read ⟨content⟩, .ok (.text text)⟩]
  | none => []

def unread (content : String) : RunError :=
  .service (.files ⟨content⟩ "Failed to read file: not found")

end MemoryFiles

namespace Job

variable {web : Web} {content : String} {s : RunState MemoryFiles}

theorem outcome_loadContent (web : Web) (hplain : isUrl content = false)
    (hfile : ¬s.files.NamesDirectory content) :
    outcome (loadContent web content) s =
      (.ok ((s.files.named? content).getD content),
        { s with transcript := s.transcript ++ s.files.consulted content }) := by
  unfold loadContent MemoryFiles.consulted MemoryFiles.named?
  by_cases hline : '\n' ∈ content.toList
  · simp [hline]
  by_cases habsolute : (Path.mk content).isAbsolute = true
  · rcases hget : s.files.get? ⟨content⟩ with _ | text
    · have hdirectory : s.files.isDirectory ⟨content⟩ = false := by
        by_contra hdirectory
        exact hfile ⟨hline, habsolute, by simpa using hdirectory, hget⟩
      have hfree : FileTree.occupied s.files ⟨content⟩ = false := by
        change s.files.occupied ⟨content⟩ = false
        simp [MemoryFiles.occupied, hget, hdirectory]
      simp [hline, hplain, habsolute, hfree]
    · have hoccupied : FileTree.occupied s.files ⟨content⟩ = true :=
        MemoryFiles.occupied_of_get? hget rfl
      have hread : FileTree.read s.files ⟨content⟩ = .ok text := by
        change s.files.read ⟨content⟩ = .ok text
        rw [MemoryFiles.read, hget]
      simp [hline, hplain, habsolute, hoccupied, hread, RunState.noted, Except.map,
        Replies.reply]
  · simp [hline, hplain, habsolute, -bind_pure_comp]

theorem outcome_loadContent_directory (hplain : isUrl content = false)
    (hdirectory : s.files.NamesDirectory content) :
    outcome (loadContent web content) s =
      (.error (MemoryFiles.unread content),
        s.noted (.read ⟨content⟩) (.error (MemoryFiles.unread content))) := by
  obtain ⟨hline, habsolute, hthere, hget⟩ := hdirectory
  have hoccupied : FileTree.occupied s.files ⟨content⟩ = true := by
    change s.files.occupied ⟨content⟩ = true
    simp [MemoryFiles.occupied, hthere]
  have hread : FileTree.read s.files ⟨content⟩ = .error (MemoryFiles.unread content) := by
    change s.files.read ⟨content⟩ = _
    rw [MemoryFiles.read, hget]
    rfl
  simp [loadContent, hline, hplain, habsolute, hoccupied, hread, Except.map]

variable {job : FileJob} {path : Path} {t : RunState MemoryFiles}

theorem exists_applyWrite_eq (web : Web) (hcontent : job.write.content? = some content)
    (hplain : isUrl content = false) (hfile : ¬s.files.NamesDirectory content) (path : Path) :
    ∃ u, outcome (applyWrite web path job.write) s = (.ok (), u) ∧
      u.files = (job.write.putting path ((s.files.named? content).getD content)).apply s.files ∧
      u.transcript = s.transcript ++ s.files.consulted content ++
        [⟨job.write.putting path ((s.files.named? content).getD content), .ok .done⟩] := by
  have hloaded := outcome_loadContent web hplain hfile
  obtain ⟨name, write⟩ := job
  cases write with
  | overwrite other =>
      obtain rfl := Option.some.inj hcontent
      rw [applyWrite, outcome_bind_ok hloaded, Service.outcome_write]
      exact ⟨_, rfl, rfl, rfl⟩
  | append other =>
      obtain rfl := Option.some.inj hcontent
      rw [applyWrite, outcome_bind_ok hloaded, Service.outcome_append]
      exact ⟨_, rfl, rfl, rfl⟩
  | replace pairs => cases hcontent

theorem outcome_applyWrite_of_unread {u : RunState MemoryFiles} {e : RunError}
    (hcontent : job.write.content? = some content)
    (hloaded : outcome (loadContent web content) s = (.error e, u)) :
    outcome (applyWrite web path job.write) s = (.error e, u) := by
  obtain ⟨name, write⟩ := job
  cases write with
  | overwrite other =>
      obtain rfl := Option.some.inj hcontent
      exact outcome_bind_error hloaded _
  | append other =>
      obtain rfl := Option.some.inj hcontent
      exact outcome_bind_error hloaded _
  | replace pairs => cases hcontent

/-- A job whose content is no address writes the text of the file that the content names, or else
the content itself; it fails in one case only, when a directory is named. -/
theorem writes_content (around : Surroundings) (base : Option Path) (job : FileJob)
    (hcontent : job.write.content? = some content) (hplain : isUrl content = false)
    (hresolve : outcome (Destination.resolve base job.name
      (around.force || job.write.expectsExisting)) s = (.ok (.path path), t)) :
    (¬s.files.NamesDirectory content → ∃ u, outcome (writeFile around base job) s = (.ok (), u) ∧
      u.transcript = t.transcript ++ (s.files.consulted content ++
        [⟨job.write.putting path ((s.files.named? content).getD content), .ok .done⟩,
          ⟨.report .success ("✔ File processed: " ++ path.text), .ok .done⟩]) ∧
      u.files.get? path =
        some (job.write.kept s.files path ++ (s.files.named? content).getD content) ∧
      ∀ file : Path, file.key ≠ path.key → u.files.get? file = s.files.get? file) ∧
    (s.files.NamesDirectory content → outcome (writeFile around base job) s =
      (.error (MemoryFiles.unread content),
        t.noted (.read ⟨content⟩) (.error (MemoryFiles.unread content)))) := by
  have hfiles : t.files = s.files := ((Destination.quiet_resolve _ _ _).quietTo hresolve).files
  rw [← hfiles]
  constructor
  · intro hfile
    obtain ⟨u, hwritten, hput, hcalls⟩ :=
      exists_applyWrite_eq around.web hcontent hplain hfile path
    refine ⟨u.noted (.report .success ("✔ File processed: " ++ path.text)) (.ok .done), ?_, ?_,
      ?_, ?_⟩
    · rw [writeFile, outcome_bind_ok hresolve]
      dsimp only
      rw [outcome_bind_ok hwritten, Service.outcome_report]
    · simp [RunState.noted, hcalls]
    · change u.files.get? path = _
      rw [hput]
      exact FileWrite.get?_apply_putting hcontent _ t.files
    · intro file hne
      change u.files.get? file = _
      rw [hput]
      exact ServiceCall.get?_apply_of_ne (FileWrite.target?_putting path _ job.write) hne t.files
  · intro hdirectory
    rw [writeFile, outcome_bind_ok hresolve]
    exact outcome_bind_error (outcome_applyWrite_of_unread hcontent
      (outcome_loadContent_directory hplain hdirectory)) _

end Job

/-- There is a note in a directory, and a file to be written. -/
def RunState.serving : RunState MemoryFiles :=
  .start ⟨.empty, .empty⟩
    ((MemoryFiles.empty.put ⟨"/srv/note.txt"⟩ "hello").put ⟨"out.txt"⟩ "a") (.script [])

namespace Job

/-- The note is added, of which the content is another spelling. -/
theorem writes_content_serving :
    isUrl "/srv/./note.txt" = false ∧ ¬RunState.serving.files.NamesDirectory "/srv/./note.txt" ∧
      outcome (Destination.resolve none "out.txt" true) RunState.serving =
        (.ok (.path ⟨"out.txt"⟩), RunState.serving) ∧
      ∃ u, outcome (writeFile ⟨⟨[]⟩, false⟩ none ⟨"out.txt", .append "/srv/./note.txt"⟩)
          RunState.serving = (.ok (), u) ∧ u.files.get? ⟨"out.txt"⟩ = some "ahello" := by
  have hplain : isUrl "/srv/./note.txt" = false := by decide
  have hfile : ¬RunState.serving.files.NamesDirectory "/srv/./note.txt" := by
    intro hdirectory
    exact absurd hdirectory.noFile (by decide)
  have hresolve : outcome (Destination.resolve none "out.txt" true) RunState.serving =
      (.ok (.path ⟨"out.txt"⟩), RunState.serving) := by rfl
  obtain ⟨u, hwritten, -, hput, -⟩ :=
    (writes_content ⟨⟨[]⟩, false⟩ none ⟨"out.txt", .append "/srv/./note.txt"⟩ rfl hplain
      hresolve).1 hfile
  have htext : FileWrite.kept RunState.serving.files ⟨"out.txt"⟩ (.append "/srv/./note.txt") ++
      (RunState.serving.files.named? "/srv/./note.txt").getD "/srv/./note.txt" = "ahello" := by
    decide
  exact ⟨hplain, hfile, hresolve, u, hwritten, hput.trans (congrArg some htext)⟩

theorem writes_no_directory :
    isUrl "/srv" = false ∧
      outcome (Destination.resolve none "new.txt" false) RunState.serving =
        (.ok (.path ⟨"new.txt"⟩), RunState.serving) ∧
      (outcome (writeFile ⟨⟨[]⟩, false⟩ none ⟨"new.txt", .overwrite "/srv"⟩)
        RunState.serving).1 = .error (MemoryFiles.unread "/srv") :=
  ⟨by decide, rfl, by decide +kernel⟩

end Job
end Scaffold
