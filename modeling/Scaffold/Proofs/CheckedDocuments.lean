import Mathlib.Data.List.Permutation
import Scaffold.Files.Memory
import Scaffold.Proofs.CallGraph
import Scaffold.Proofs.Effects
import Scaffold.Proofs.Guards
import Scaffold.Proofs.ReadJobs

/-!
# Documents that are checked beforehand

When a document has been read, all definitions that it runs are declared and do not reach
themselves, and its guards and patterns can be read, no job finds a fault in the document any more:
each job ends well or with the error of a service.
-/

namespace Scaffold

open Run

variable {ω : Type} {allowed : RunError → Prop} {s : RunState ω}

theorem Run.failsByCall_modify {f : RunState ω → RunState ω}
    (hf : (f s).transcript = s.transcript) : FailsByCall allowed (modify f) s :=
  ⟨[], by simpa using hf, by simp [Explained]⟩

variable [FileTree ω] {web : Web} {around : Surroundings}

namespace Service

theorem failsByCall_write (hports : Ports web ω allowed) (path : Path) (content : String) :
    FailsByCall allowed (write path content : Run ω Unit) s := by
  exact ⟨_, by rw [outcome_write]; rfl, by
    rw [outcome_write]; exact explained_single (hports.write s.files path content)⟩

theorem failsByCall_append (hports : Ports web ω allowed) (path : Path) (content : String) :
    FailsByCall allowed (append path content : Run ω Unit) s := by
  exact ⟨_, by rw [outcome_append]; rfl, by
    rw [outcome_append]; exact explained_single (hports.append s.files path content)⟩

end Service

namespace Job

theorem exists_replaceAll {pairs : List (String × String)}
    (hpairs : ∀ pair ∈ pairs, ∃ p, Pattern.compile pair.1 = .ok p) (vars : Variables)
    (text : String) : ∃ replaced, replaceAll vars pairs text = .ok replaced := by
  induction pairs generalizing text with
  | nil => exact ⟨text, rfl⟩
  | cons pair rest ih =>
      obtain ⟨p, hp⟩ := hpairs pair (by simp)
      obtain ⟨replaced, hrest⟩ := ih (fun other hother => hpairs other (by simp [hother]))
        (p.replaceAll text (replacementText vars pair.2))
      exact ⟨replaced, by rw [replaceAll, hp]; exact hrest⟩

theorem failsByCall_applyWrite (hports : Ports web ω allowed) (path : Path) {job : FileJob}
    (hcompiles : (Task.file job).Compiles) :
    FailsByCall allowed (applyWrite web path job.write : Run ω Unit) s := by
  obtain ⟨name, write⟩ := job
  cases write with
  | overwrite content =>
      exact (asks_loadContent hports content).fails.bind fun loaded _ _ =>
        Service.failsByCall_write hports path loaded
  | append content =>
      exact (asks_loadContent hports content).fails.bind fun loaded _ _ =>
        Service.failsByCall_append hports path loaded
  | replace pairs =>
      refine (Service.asks_read hports path).fails.bind fun text t _ => ?_
      obtain ⟨replaced, hreplaced⟩ := exists_replaceAll hcompiles t.vars text
      have hsame : outcome (orFault (replaceAll t.vars pairs text) : Run ω String) t =
          (.ok replaced, t) := by
        rw [outcome_orFault, hreplaced]
        rfl
      refine FailsByCall.get_bind (FailsByCall.bind ?_ fun result _ _ =>
        Service.failsByCall_write hports path result)
      exact ⟨[], by rw [hsame]; simp, by rw [hsame]; simp [Explained]⟩

theorem failsByCall_writeFile (hports : Ports around.web ω allowed) (base : Option Path)
    {job : FileJob} (hcompiles : (Task.file job).Compiles) :
    FailsByCall allowed (writeFile around base job : Run ω Unit) s := by
  refine (Destination.asks_resolve hports _ _ _).fails.bind fun destination _ _ => ?_
  cases destination with
  | skip => exact (Service.asks_report _ _).fails
  | path path =>
      exact (failsByCall_applyWrite hports path hcompiles).bind fun _ _ _ =>
        (Service.asks_report _ _).fails

theorem failsByCall_answerQuestion (hports : Ports web ω allowed) (id : String)
    (q : Question) : FailsByCall allowed (answerQuestion (some id) q : Run ω Unit) s := by
  refine FailsByCall.get_bind ?_
  split
  · exact failsByCall_pure _
  · exact (asks_askQuestion hports q).fails.bind fun answer _ _ => failsByCall_modify rfl

theorem failsByCall_plain (hports : Ports around.web ω allowed) (frame : Frame) (gate : Gate)
    {task : Task} (hplain : task.isPlain = true) (hcompiles : task.Compiles)
    (hnamed : task.Named gate) (invoke : Frame → String → Run ω Unit) :
    FailsByCall allowed (runTask around invoke frame gate.id task) s := by
  cases task with
  | file job => exact failsByCall_writeFile hports frame.base hcompiles
  | question q =>
      obtain ⟨id, hid⟩ := hnamed
      rw [hid]
      exact failsByCall_answerQuestion hports id q
  | registryDependencies names => exact failsByCall_modify rfl
  | dependencies names => exact failsByCall_modify rfl
  | run target => cases hplain
  | log level message => exact (Service.asks_report level message).fails

theorem failsByCall_gated (hports : Ports web ω allowed) {gate : Gate} {act : Run ω Unit}
    (hreadable : gate.Readable) (hact : ∀ t, FailsByCall allowed act t) :
    FailsByCall allowed (gated gate act) s := by
  refine (asks_shouldRun hports hreadable).fails.bind fun runs t _ => ?_
  split
  · refine (hact t).bind fun _ _ _ => ?_
    split
    · exact failsByCall_modify (transcript_finish _ _)
    · exact failsByCall_pure _
  · exact failsByCall_pure _

theorem failsByCall_runAllIn {frame : Frame} {jobs : List Job}
    (hjobs : ∀ job ∈ jobs, ∀ t : RunState ω, FailsByCall allowed (runIn around frame job) t) :
    FailsByCall allowed (runAllIn around frame jobs) s := by
  induction jobs generalizing s with
  | nil => simpa using failsByCall_pure ()
  | cons job rest ih =>
      rw [runAllIn_cons]
      exact (hjobs job (by simp) s).bind fun _ _ _ =>
        ih fun other hother => hjobs other (List.mem_cons_of_mem _ hother)

/-- Progress: a job that has been checked, in a frame that has been reached along the call graph,
fails only by a call. -/
theorem failsByCall_runIn (hports : Ports around.web ω allowed) {frame : Frame} {job : Job}
    (hsound : frame.Sound) :
    frame.definitions.Linked → frame.definitions.Acyclic → frame.OnPath job.targets →
    (∀ entry ∈ frame.definitions, entry.2.Every Gate.Readable fun gate task =>
      task.Compiles ∧ task.Named gate) →
    (job.Every Gate.Readable fun gate task => task.Compiles ∧ task.Named gate) →
    ∀ s : RunState ω, FailsByCall allowed (runIn around frame job) s := by
  refine frame_induction (motive := fun frame job =>
    frame.definitions.Linked → frame.definitions.Acyclic → frame.OnPath job.targets →
    (∀ entry ∈ frame.definitions, entry.2.Every Gate.Readable fun gate task =>
      task.Compiles ∧ task.Named gate) →
    (job.Every Gate.Readable fun gate task => task.Compiles ∧ task.Named gate) →
    ∀ s : RunState ω, FailsByCall allowed (runIn around frame job) s) ?_ ?_ ?_ frame job hsound
  · intro frame gate task _ hplain _ _ _ _ hevery s
    obtain ⟨hreadable, hcompiles, hnamed⟩ := hevery
    rw [runIn_plain around frame gate hplain]
    exact failsByCall_gated hports hreadable fun t =>
      failsByCall_plain hports frame gate hplain hcompiles hnamed _
  · intro frame gate target hsound ih hlinked hacyclic hpath hdefinitions hevery s
    obtain ⟨job, inner, hfind, henter, hinner⟩ :=
      hpath.enter hlinked hacyclic (List.mem_singleton_self target)
    have hdefs := Frame.enter_definitions henter
    have hjob := hdefinitions _ (Definitions.mem_of_find? hfind)
    rw [runIn_run_entered around gate hsound hfind henter]
    exact failsByCall_gated hports hevery.1 (ih job inner hfind henter
      (hsound.enter hfind henter) (hdefs ▸ hlinked) (hdefs ▸ hacyclic) hinner
      (hdefs ▸ hdefinitions) hjob)
  · intro frame gate base jobs _ ih hlinked hacyclic hpath hdefinitions hevery s
    have hjobs := allEvery_iff.mp hevery.2
    rw [runIn_group]
    refine failsByCall_gated hports hevery.1 fun t => ?_
    refine (asks_groupBase hports frame base).fails.bind fun inside _ _ => ?_
    refine failsByCall_runAllIn fun job hjob => ?_
    have htargets := targets_subset_allTargets hjob
    exact ih inside job hjob hlinked hacyclic ((hpath.mono htargets).withBase inside)
      hdefinitions (hjobs job hjob)

end Job

/-- A document that has been checked runs well, or it ends in the error of a service, which was met
in the last call of all. -/
theorem Document.runAll_fails_by_call (around : Surroundings) {v : Json} {d : Document}
    (hread : Document.ofJson v = .ok d) (hlinked : d.Linked)
    (hacyclic : d.definitions.Acyclic)
    (hguards : d.Every Gate.Readable fun _ _ => True)
    (hpatterns : d.Every (fun _ => True) fun _ task => task.Compiles)
    (hports : Ports around.web ω fun e => ∀ fault, e ≠ .document fault)
    (base : Option Path) (s : RunState ω) :
    let after := outcome (Job.runAll around (Frame.root base d.definitions) d.jobs) s
    after.1 = .ok () ∨ ∃ e events call, after.1 = .error e ∧ (∀ fault, e ≠ .document fault) ∧
      after.2.transcript = s.transcript ++ events ++ [⟨call, .error e⟩] := by
  have hnamed := Document.named_of_ofJson hread
  have hdefinitions : ∀ entry ∈ d.definitions, entry.2.Every Gate.Readable fun gate task =>
      task.Compiles ∧ task.Named gate := by
    intro entry hentry
    have htasks := (hpatterns.definitions entry hentry).and (hnamed.definitions entry hentry)
    simpa using (hguards.definitions entry hentry).and htasks
  have hpath : (Frame.root base d.definitions).OnPath (Job.allTargets d.jobs) :=
    Frame.root_onPath base hlinked.jobs
  have hfails : FailsByCall (fun e => ∀ fault, e ≠ .document fault)
      (Job.runAllIn around (Frame.root base d.definitions) d.jobs) s := by
    refine Job.failsByCall_runAllIn fun job hjob => ?_
    have htargets := Job.targets_subset_allTargets hjob
    have htasks := (hpatterns.jobs job hjob).and (hnamed.jobs job hjob)
    exact Job.failsByCall_runIn hports (Frame.root_sound base d.definitions)
      hlinked.definitions hacyclic (hpath.mono htargets) hdefinitions
      (by simpa using (hguards.jobs job hjob).and htasks)
  obtain ⟨events, htranscript, hexplained⟩ := hfails
  rw [Job.runAll_root]
  rcases hout : outcome (Job.runAllIn around (Frame.root base d.definitions) d.jobs) s
    with ⟨e | _, t⟩
  · rw [hout] at htranscript hexplained
    obtain ⟨hfault, front, call, rfl, -⟩ := hexplained
    exact Or.inr ⟨e, front, call, rfl, hfault, by simpa using htranscript⟩
  · exact Or.inl rfl

namespace Document

def pageJson : Json :=
  .object
    [ ("jobs", .array
        [ .object
            [ ("type", .string "question"), ("id", .string "name"),
              ("question", .string "Name?"), ("questionType", .string "ask") ],
          .object
            [ ("type", .string "group"), ("base", .string "app"),
              ("jobs", .array
                [ .object
                    [ ("type", .string "run"), ("target", .string "page"),
                      ("when", .string "#name") ] ]) ] ]),
      ("definitions", .object
        [ ("page", .object
            [ ("name", .string "<#name>.md"),
              ("method", .object [("old", .string "<#name>")]) ]) ]) ]

def page : Document where
  name := none
  title := none
  version := none
  description := none
  jobs :=
    [ .task ⟨some "name", none, none⟩ (.question ⟨"Name?", none, .ask⟩),
      .group ⟨none, none, none⟩ (some "app")
        [.task ⟨none, some "#name", none⟩ (.run "page")] ]
  dependencies := []
  registryDependencies := []
  definitions :=
    [("page", .task ⟨none, none, none⟩ (.file ⟨"<#name>.md", .replace [("old", "<#name>")]⟩))]

theorem conditionOf_name :
    Guard.conditionOf "#name" = .ok (.reference .memory "name") := by
  have hname : VariableRef.isName "name".toList = true := by decide
  have hguard : (VariableRef.mk .memory "name").guard = "#name" := rfl
  rw [← hguard]
  exact Guard.conditionOf_guard hname

theorem ofJson_pageJson : Document.ofJson pageJson = .ok page := by
  cbv

theorem page_linked : page.Linked := by
  constructor <;>
    simp [page, Job.allTargets, Job.targets, Definitions.Linked, Definitions.Declares,
      Definitions.find?]

theorem page_acyclic : page.definitions.Acyclic := by
  refine Definitions.acyclic_of_rank (fun _ => 0) ?_
  simp [page, Job.targets]

theorem page_guards : page.Every Gate.Readable fun _ _ => True := by
  constructor <;>
    simp [page, Job.Every, Job.AllEvery, Gate.Readable, conditionOf_name]

theorem page_patterns : page.Every (fun _ => True) fun _ task => task.Compiles := by
  have hold : ∃ p, Pattern.compile "old" = .ok p := ⟨_, rfl⟩
  constructor <;> simp [page, Job.Every, Job.AllEvery, Task.Compiles, hold]

/-- Without pages, only the files and the web itself can fail. -/
theorem ports_memory :
    Ports ⟨[]⟩ MemoryFiles fun e => ∀ fault, e ≠ .document fault := by
  constructor <;> intros <;>
    simp_all [FileTree.read, FileTree.write, FileTree.append, MemoryFiles.read, Web.fetch]
  all_goals grind

def pageStart : RunState MemoryFiles :=
  RunState.start (.withStore .empty) MemoryFiles.empty (.script [.text "index"])

theorem runAll_fails_by_call_page :
    Document.ofJson pageJson = .ok page ∧ page.Linked ∧ page.definitions.Acyclic ∧
      (page.Every Gate.Readable fun _ _ => True) ∧
      (page.Every (fun _ => True) fun _ task => task.Compiles) ∧
      (Ports ⟨[]⟩ MemoryFiles fun e => ∀ fault, e ≠ .document fault) ∧
      let after := outcome
        (Job.runAll ⟨⟨[]⟩, false⟩ (Frame.root (some ⟨"src"⟩) page.definitions) page.jobs)
        pageStart
      after.1 = .ok () ∨ ∃ e events call, after.1 = .error e ∧ (∀ fault, e ≠ .document fault) ∧
        after.2.transcript = pageStart.transcript ++ events ++ [⟨call, .error e⟩] :=
  ⟨ofJson_pageJson, page_linked, page_acyclic, page_guards, page_patterns, ports_memory,
    runAll_fails_by_call ⟨⟨[]⟩, false⟩ ofJson_pageJson page_linked page_acyclic page_guards
      page_patterns ports_memory (some ⟨"src"⟩) pageStart⟩

end Document
end Scaffold
