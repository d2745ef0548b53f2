import Scaffold.Proofs.Effects
import Scaffold.Proofs.FileLaws

/-!
# No silent overwrite

Without force, a job that writes a file anew puts its text where nothing is, or into the file that
the user has let it overwrite.  A file for which no such leave is given, and which no job appends to
or replaces in, is the same at every moment of a run.
-/

namespace Scaffold

open Run
open Destination (leave)

variable {ω : Type}

namespace Moment

variable [FileTree ω] {around : Surroundings} {m : Moment ω} {frame : Frame} {job : FileJob}

def RunsFile (m : Moment ω) (frame : Frame) (job : FileJob) : Prop :=
  ∃ gate rest, m.agenda = .body frame (.task gate (.file job)) :: rest

def Calls (around : Surroundings) (m : Moment ω) (events : List ServiceEvent) : Prop :=
  (m.next around).state.transcript = m.state.transcript ++ events

theorem state_next_of_runsFile (hruns : m.RunsFile frame job) :
    (m.next around).state = (outcome (Job.writeFile around frame.base job) m.state).2 := by
  obtain ⟨gate, rest, hagenda⟩ := hruns
  rw [state_next_of_cons hagenda]
  exact outcome_return_snd _ _ _

/-- When a job that writes a file anew is run next, a text that it puts into a file is the first, and
nothing is there at that moment, or the user has let this very path be overwritten before. -/
def Careful (around : Surroundings) (m : Moment ω) : Prop :=
  ∀ frame name content, m.RunsFile frame ⟨name, .overwrite content⟩ →
    ∃ events, m.Calls around events ∧
      ∀ front event back path, events = front ++ event :: back →
        event.call.target? = some path →
        (∀ earlier ∈ front, earlier.call.target? = none) ∧
          (FileTree.occupied m.state.files path = false ∨ leave path ∈ front)

theorem careful (web : Web) (m : Moment ω) : m.Careful ⟨web, false⟩ := by
  intro frame name content hruns
  have hstate : (m.next ⟨web, false⟩).state = _ := state_next_of_runsFile hruns
  have hjob := Job.quietTo_or_puts (s := m.state) ⟨web, false⟩ frame.base
    ⟨name, .overwrite content⟩
  rw [← hstate] at hjob
  rcases hjob with ⟨events, prompter, hquiet, hevents⟩ | ⟨path, calls, front, hresolves, hputs⟩
  · refine ⟨events, by rw [Calls, hquiet], ?_⟩
    rintro before event back target rfl htarget
    have hunchanged := hevents event (by simp)
    simp [ServiceCall.changesFiles, htarget] at hunchanged
  · obtain ⟨put, later, prompter, hafter, -, hfront, -⟩ := id hputs
    have htranscript : m.Calls ⟨web, false⟩ (calls ++ front ++ put :: later) := by
      rw [Calls, hafter]
    refine ⟨_, htranscript, ?_⟩
    intro before event back target hsplit htarget
    rw [hsplit] at htranscript
    obtain ⟨rfl, rfl⟩ := hputs.eq_of_target htranscript htarget
    refine ⟨fun earlier hearlier => ?_, ?_⟩
    · simpa [ServiceCall.changesFiles] using hfront earlier hearlier
    · exact hresolves.free_or_leave.imp_right fun hleave => List.mem_append_left _ hleave

/-- In the next step a job that writes a file anew gets leave to overwrite the file at the path. -/
def GetsLeave (around : Surroundings) (m : Moment ω) (path : Path) : Prop :=
  ∃ frame name content events, m.RunsFile frame ⟨name, .overwrite content⟩ ∧
    m.Calls around events ∧ leave path ∈ events

/-- In the next step the name of a job that appends or replaces is resolved to the path. -/
def Amends (around : Surroundings) (m : Moment ω) (path : Path) : Prop :=
  ∃ frame job calls, m.RunsFile frame job ∧ job.write.expectsExisting = true ∧
    Job.Resolves around frame.base job path calls m.state

/-- In the next step the file at the path is let be overwritten, or it is appended to or replaced
in; the path may be spelled in another way. -/
def Releases (around : Surroundings) (m : Moment ω) (file : Path) : Prop :=
  ∃ path, path.key = file.key ∧ (m.GetsLeave around path ∨ m.Amends around path)

/-- A file job puts text only where no file is or where a file is released. -/
theorem quietTo_or_puts_of_runsFile {web : Web} (hruns : m.RunsFile frame job) :
    m.state.QuietTo (m.next ⟨web, false⟩).state ∨
      ∃ path front, RunState.Puts path front m.state (m.next ⟨web, false⟩).state ∧
        (FileTree.occupied m.state.files path = false ∨ m.Releases ⟨web, false⟩ path) := by
  have hstate : (m.next ⟨web, false⟩).state = _ := state_next_of_runsFile hruns
  have hjob := Job.quietTo_or_puts (s := m.state) ⟨web, false⟩ frame.base job
  rw [← hstate] at hjob
  refine hjob.imp_right ?_
  rintro ⟨path, calls, front, hresolves, hputs⟩
  refine ⟨path, calls ++ front, hputs, ?_⟩
  obtain ⟨name, write⟩ := job
  cases hexpects : write.expectsExisting with
  | true => exact Or.inr ⟨path, rfl, Or.inr ⟨frame, _, calls, hruns, hexpects, hresolves⟩⟩
  | false =>
      cases write with
      | overwrite content =>
          obtain ⟨put, later, prompter, hafter, -⟩ := hputs
          refine hresolves.free_or_leave.imp_right fun hleave => ?_
          exact ⟨path, rfl, Or.inl ⟨frame, name, content, calls ++ front ++ put :: later, hruns,
            by rw [Calls, hafter], by simp [hleave]⟩⟩
      | append content => cases hexpects
      | replace pairs => cases hexpects

end Moment

theorem ServiceCall.get?_apply_of_ne {call : ServiceCall} {path file : Path}
    (htarget : call.target? = some path) (hne : file.key ≠ path.key) (files : MemoryFiles) :
    (call.apply files).get? file = files.get? file := by
  cases call with
  | write target content =>
      obtain rfl := Option.some.inj htarget
      exact MemoryFiles.get?_put_of_ne hne
  | append target content =>
      obtain rfl := Option.some.inj htarget
      exact MemoryFiles.get?_put_of_ne hne
  | _ => cases htarget

namespace Moment

variable {web : Web} {m : Moment MemoryFiles} {file : Path} {content : String}

theorem get?_next (hfile : m.state.files.get? file = some content)
    (hkept : ¬m.Releases ⟨web, false⟩ file) :
    (m.next ⟨web, false⟩).state.files.get? file = some content := by
  rcases hagenda : m.agenda with _ | ⟨errand, rest⟩
  · rw [next_of_nil hagenda]
    exact hfile
  · have heffect := Errand.effect_perform ⟨web, false⟩ errand m.state
    rw [← state_next_of_cons hagenda] at heffect
    rcases heffect.files with hfiles | ⟨⟨frame, gate, job, rfl⟩, -⟩
    · rw [hfiles]
      exact hfile
    · have hruns : m.RunsFile frame job := ⟨gate, rest, hagenda⟩
      rcases quietTo_or_puts_of_runsFile hruns with
        ⟨events, prompter, hquiet, -⟩ | ⟨path, front, hputs, hmay⟩
      · rw [hquiet]
        exact hfile
      · -- The file is there: were it the one at the path, the path would not have been free.
        have hne : file.key ≠ path.key := by
          intro hkey
          rcases hmay with hfree | ⟨other, hother, hreleases⟩
          · have hoccupied := MemoryFiles.occupied_of_get? hfile hkey.symm
            exact absurd (hoccupied.symm.trans hfree) (by simp)
          · exact hkept ⟨other, hother.trans hkey.symm, hreleases⟩
        obtain ⟨put, later, prompter, hafter, htarget, -⟩ := hputs
        rw [hafter, ServiceCall.get?_apply_of_ne htarget hne]
        exact hfile

theorem get?_after (hfile : m.state.files.get? file = some content)
    (hkept : ∀ step, ¬(m.after ⟨web, false⟩ step).Releases ⟨web, false⟩ file) (steps : Nat) :
    (m.after ⟨web, false⟩ steps).state.files.get? file = some content := by
  induction steps with
  | zero => exact hfile
  | succ n ih =>
      rw [after_succ]
      exact get?_next ih (hkept n)

end Moment

/-- Without force no file is overwritten silently, whatever is to be done: each job that writes a
file anew is careful, and a file that is never released keeps its content to the end.  The runs of
documents are such runs. -/
theorem Document.overwrites_with_leave (web : Web) :
    (∀ agenda (s : RunState MemoryFiles) steps,
      ((Moment.start agenda s).after ⟨web, false⟩ steps).Careful ⟨web, false⟩) ∧
    (∀ agenda (s : RunState MemoryFiles) file content, s.files.get? file = some content →
      (∀ step, ¬((Moment.start agenda s).after ⟨web, false⟩ step).Releases ⟨web, false⟩ file) →
      ∀ steps, ((Moment.start agenda s).after ⟨web, false⟩ steps).state.files.get? file =
        some content) ∧
    ∀ extend text (s : RunState MemoryFiles),
      (Moment.start [.root extend text] s).EndsAs ⟨web, false⟩
        (loadRoot ⟨web, false⟩ extend text) := by
  refine ⟨?_, ?_, endsAs_loadRoot ⟨web, false⟩⟩
  · intro agenda s steps
    exact Moment.careful web _
  · intro agenda s file content hfile hkept steps
    exact Moment.get?_after hfile hkept steps

end Scaffold
