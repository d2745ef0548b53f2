import Mathlib.Data.List.Basic
import Scaffold.Proofs.Collisions

/-!
# What file jobs write

A file job puts text into one file at most: the one to which its name has been resolved.  Nothing
but calls that change no file come before and after.
-/

namespace Scaffold

open Run

variable {ω α β : Type} [FileTree ω]

def ServiceCall.apply : ServiceCall → ω → ω
  | .write path content, files => (FileTree.write path content files).2
  | .append path content, files => (FileTree.append path content files).2
  | _, files => files

namespace RunState

variable {s t u : RunState ω} {path : Path} {front : List ServiceEvent}

/-- From one state to the other, text is put into the file at the path behind the calls in front and
before other calls; none of these changes a file. -/
def Puts (path : Path) (front : List ServiceEvent) (s t : RunState ω) : Prop :=
  ∃ event back prompter,
    t = { s with
      files := event.call.apply s.files
      prompter
      transcript := s.transcript ++ (front ++ event :: back) } ∧
    event.call.target? = some path ∧
    (∀ earlier ∈ front, earlier.call.changesFiles = false) ∧
    ∀ later ∈ back, later.call.changesFiles = false

theorem QuietTo.puts {events : List ServiceEvent} {prompter : Prompter}
    (hfirst : t = { s with prompter, transcript := s.transcript ++ events })
    (hevents : ∀ event ∈ events, event.call.changesFiles = false)
    (hsecond : Puts path front t u) : Puts path (events ++ front) s u := by
  obtain ⟨event, back, later, rfl, htarget, hfront, hback⟩ := hsecond
  subst hfirst
  refine ⟨event, back, later, by simp, htarget, fun earlier hearlier => ?_, hback⟩
  rcases List.mem_append.mp hearlier with hmem | hmem
  · exact hevents earlier hmem
  · exact hfront earlier hmem

/-- The call that puts the text is the only one that changes a file. -/
theorem Puts.eq_of_target {before back : List ServiceEvent} {event : ServiceEvent}
    {target : Path} (hputs : Puts path front s t)
    (htranscript : t.transcript = s.transcript ++ (before ++ event :: back))
    (htarget : event.call.target? = some target) : before = front ∧ target = path := by
  obtain ⟨put, later, prompter, rfl, hpath, hfront, hlater⟩ := hputs
  have hchanges : event.call.changesFiles = true := by
    simp [ServiceCall.changesFiles, htarget]
  have hnotFront : event ∉ front := fun hmem => by
    simp [hfront event hmem] at hchanges
  have hnotLater : event ∉ later := fun hmem => by
    simp [hlater event hmem] at hchanges
  rw [List.append_cancel_left_eq,
    List.append_cons_inj_of_notMem hnotFront hnotLater] at htranscript
  obtain ⟨rfl, rfl, -⟩ := htranscript
  exact ⟨rfl, Option.some.inj (htarget.symm.trans hpath)⟩

def PutsAtMost (path : Path) (s t : RunState ω) : Prop :=
  s.QuietTo t ∨ ∃ front, Puts path front s t

theorem Puts.quiet (hfirst : Puts path front s t) (hsecond : t.QuietTo u) :
    Puts path front s u := by
  obtain ⟨event, back, _, rfl, htarget, hfront, hback⟩ := hfirst
  obtain ⟨events, prompter, rfl, hevents⟩ := hsecond
  refine ⟨event, back ++ events, prompter, by simp, htarget, hfront, fun later hlater => ?_⟩
  rcases List.mem_append.mp hlater with hmem | hmem
  · exact hback later hmem
  · exact hevents later hmem

theorem PutsAtMost.quiet (hfirst : PutsAtMost path s t) (hsecond : t.QuietTo u) :
    PutsAtMost path s u := by
  rcases hfirst with hquiet | ⟨front, hputs⟩
  · exact Or.inl (hquiet.trans hsecond)
  · exact Or.inr ⟨front, hputs.quiet hsecond⟩

end RunState

variable {s : RunState ω}

namespace Service

theorem putsAtMost_write (path : Path) (content : String) :
    RunState.PutsAtMost path s (outcome (write path content) s).2 := by
  rw [outcome_write]
  exact Or.inr ⟨[], ⟨.write path content, _⟩, [], s.prompter, rfl, rfl, by simp, by simp⟩

theorem putsAtMost_append (path : Path) (content : String) :
    RunState.PutsAtMost path s (outcome (append path content) s).2 := by
  rw [outcome_append]
  exact Or.inr ⟨[], ⟨.append path content, _⟩, [], s.prompter, rfl, rfl, by simp, by simp⟩

end Service

namespace Job

open RunState (Puts PutsAtMost)

theorem putsAtMost_bind {first : Run ω α} {next : α → Run ω β} {path : Path}
    (hfirst : Quiet first s)
    (hnext : ∀ a t, outcome first s = (.ok a, t) → PutsAtMost path t (outcome (next a) t).2) :
    PutsAtMost path s (outcome (first >>= next) s).2 := by
  refine state_bind (PutsAtMost path s) (fun e t hout => ?_) fun a t hout => ?_
  · exact Or.inl (hfirst.quietTo hout)
  · obtain ⟨events, prompter, hstate, hevents⟩ := hfirst.quietTo hout
    rcases hnext a t hout with hquiet | ⟨front, hputs⟩
    · exact Or.inl (RunState.QuietTo.trans ⟨events, prompter, hstate, hevents⟩ hquiet)
    · exact Or.inr ⟨events ++ front, RunState.QuietTo.puts hstate hevents hputs⟩

theorem putsAtMost_applyWrite (web : Web) (path : Path) (write : FileWrite) :
    PutsAtMost path s (outcome (applyWrite web path write) s).2 := by
  cases write with
  | overwrite content =>
      exact putsAtMost_bind (quiet_loadContent web content) fun loaded t _ =>
        Service.putsAtMost_write path loaded
  | append content =>
      exact putsAtMost_bind (quiet_loadContent web content) fun loaded t _ =>
        Service.putsAtMost_append path loaded
  | replace pairs =>
      refine putsAtMost_bind (Service.quiet_read path) fun text t _ => ?_
      rw [outcome_get_bind]
      exact putsAtMost_bind (quiet_orFault _) fun replaced u _ =>
        Service.putsAtMost_write path replaced

/-- The name of the job is resolved to the path by the calls. -/
def Resolves (around : Surroundings) (base : Option Path) (job : FileJob) (path : Path)
    (calls : List ServiceEvent) (s : RunState ω) : Prop :=
  ∃ t, outcome (Destination.resolve base job.name (around.force || job.write.expectsExisting)) s =
    (.ok (.path path), t) ∧ t.transcript = s.transcript ++ calls

/-- Without force, a job that writes a file anew comes to a path where nothing is, or to one that it
has got leave to overwrite. -/
theorem Resolves.free_or_leave {web : Web} {base : Option Path} {name content : String}
    {path : Path} {calls : List ServiceEvent}
    (hresolves : Resolves ⟨web, false⟩ base ⟨name, .overwrite content⟩ path calls s) :
    FileTree.occupied s.files path = false ∨ Destination.leave path ∈ calls := by
  obtain ⟨t, hout, hcalls⟩ := hresolves
  rcases Destination.mayWrite_of_resolve hout with hfree | ⟨events, hmore, hleave⟩
  · exact Or.inl hfree
  · rw [hcalls, List.append_cancel_left_eq] at hmore
    exact Or.inr (hmore ▸ hleave)

/-- A file job changes no file, or it puts text into the file to which its name is resolved. -/
theorem quietTo_or_puts (around : Surroundings) (base : Option Path) (job : FileJob) :
    s.QuietTo (outcome (writeFile around base job) s).2 ∨
      ∃ path calls front, Resolves around base job path calls s ∧
        Puts path (calls ++ front) s (outcome (writeFile around base job) s).2 := by
  have hresolve : Quiet (Destination.resolve base job.name
      (around.force || job.write.expectsExisting)) s := Destination.quiet_resolve _ _ _
  refine state_bind (fun u => s.QuietTo u ∨ ∃ path calls front,
    Resolves around base job path calls s ∧ Puts path (calls ++ front) s u)
    (fun e t hout => ?_) fun destination t hout => ?_
  · exact Or.inl (hresolve.quietTo hout)
  · have hfirst := hresolve.quietTo hout
    obtain ⟨events, prompter, hstate, hevents⟩ := hresolve.quietTo hout
    cases destination with
    | skip => exact Or.inl (hfirst.trans (Service.quiet_report _ _))
    | path path =>
        have hputs : PutsAtMost path t (outcome (do
            applyWrite around.web path job.write
            Service.report .success ("✔ File processed: " ++ path.text)) t).2 := by
          have happly := putsAtMost_applyWrite (s := t) around.web path job.write
          refine state_bind (PutsAtMost path t) (fun e u happlied => ?_) fun _ u happlied => ?_
          · simpa [happlied] using happly
          · rw [happlied] at happly
            exact happly.quiet (Service.quiet_report _ _)
        rcases hputs with hquiet | ⟨front, hputs⟩
        · exact Or.inl (hfirst.trans hquiet)
        · refine Or.inr ⟨path, events, front, ⟨t, hout, by rw [hstate]⟩, ?_⟩
          exact RunState.QuietTo.puts hstate hevents hputs

end Job
end Scaffold
