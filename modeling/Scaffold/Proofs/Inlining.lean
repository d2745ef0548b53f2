import Scaffold.Files.Memory
import Scaffold.Proofs.CallGraph

/-!
# Inlining of definitions

A `run` task can be replaced by a group that holds the definition.  The group keeps the gate of the
task and has no base of its own, so that the definition writes where the task stood.  Where the call
graph has no cycles this can be done until no definition is left to run, and the jobs then do from
every state exactly what they did before.
-/

namespace Scaffold

mutual
/-- The job with another one in place of each `run` task. -/
def Job.replaced (expand : Gate → String → Job) : Job → Job
  | .task gate (.run target) => expand gate target
  | .task gate action => .task gate action
  | .group gate base jobs => .group gate base (Job.allReplaced expand jobs)

def Job.allReplaced (expand : Gate → String → Job) : List Job → List Job
  | [] => []
  | job :: rest => job.replaced expand :: Job.allReplaced expand rest
end

theorem Job.allReplaced_eq_map (expand : Gate → String → Job) (jobs : List Job) :
    Job.allReplaced expand jobs = jobs.map (Job.replaced expand) := by
  induction jobs with
  | nil => rfl
  | cons job rest ih => rw [Job.allReplaced, ih, List.map_cons]

theorem Job.replaced_plain (expand : Gate → String → Job) (gate : Gate) {task : Task}
    (hplain : task.isPlain = true) :
    (Job.task gate task).replaced expand = .task gate task := by
  cases task <;> simp_all [Task.isPlain, Job.replaced]

namespace Definitions

/-- The group in place of a `run` task; the number says how many definitions deep. -/
def expand (definitions : Definitions) : Nat → Gate → String → Job
  | 0, gate, target => .task gate (.run target)
  | bound + 1, gate, target =>
      match definitions.find? target with
      | some job => .group gate none [job.replaced (definitions.expand bound)]
      | none => .task gate (.run target)

def inline (definitions : Definitions) (job : Job) : Job :=
  job.replaced (definitions.expand definitions.length)

variable {definitions : Definitions}

/-- What lies deeper than there are definitions left to enter does not matter. -/
theorem replaced_expand_eq {frame : Frame} {job : Job} (hsound : frame.Sound) :
    frame.definitions.Linked → frame.definitions.Acyclic → frame.OnPath job.targets →
    ∀ bound, frame.room ≤ bound →
      job.replaced (frame.definitions.expand bound) =
        job.replaced (frame.definitions.expand frame.room) := by
  refine Job.frame_induction (motive := fun frame job =>
    frame.definitions.Linked → frame.definitions.Acyclic → frame.OnPath job.targets →
    ∀ bound, frame.room ≤ bound →
      job.replaced (frame.definitions.expand bound) =
        job.replaced (frame.definitions.expand frame.room)) ?_ ?_ ?_ frame job hsound
  · intro frame gate task _ hplain _ _ _ bound _
    rw [Job.replaced_plain _ gate hplain, Job.replaced_plain _ gate hplain]
  · intro frame gate target hsound ih hlinked hacyclic hpath bound hbound
    obtain ⟨job, inner, hfind, henter, hinner⟩ :=
      hpath.enter hlinked hacyclic (List.mem_singleton_self target)
    have hroom := hsound.room_enter hfind henter
    have hdefs := Frame.enter_definitions henter
    obtain ⟨deeper, rfl⟩ : ∃ deeper, bound = deeper + 1 := ⟨bound - 1, by omega⟩
    have hjob := ih job inner hfind henter (hsound.enter hfind henter) (hdefs ▸ hlinked)
      (hdefs ▸ hacyclic) hinner deeper (by omega)
    rw [hdefs] at hjob
    simp only [Job.replaced, hroom, expand, hfind, hjob]
  · intro frame gate base jobs _ ih hlinked hacyclic hpath bound hbound
    simp only [Job.replaced, Job.allReplaced_eq_map, Job.group.injEq, true_and]
    refine List.map_congr_left fun job hjob => ?_
    have htargets := Job.targets_subset_allTargets hjob
    exact ih none job hjob hlinked hacyclic ((hpath.mono htargets).withBase none) bound hbound

theorem inline_run (hlinked : definitions.Linked) (hacyclic : definitions.Acyclic)
    (gate : Gate) {target : String} {job : Job} (hfind : definitions.find? target = some job) :
    definitions.inline (.task gate (.run target)) =
      .group gate none [definitions.inline job] := by
  let root := Frame.root none definitions
  have hsound : root.Sound := Frame.root_sound none definitions
  have hpath : root.OnPath [target] :=
    Frame.root_onPath none (by simpa using ⟨job, hfind⟩)
  obtain ⟨found, inner, hfound, henter, hinner⟩ :=
    hpath.enter hlinked hacyclic (List.mem_singleton_self target)
  obtain rfl : job = found := Option.some.inj (hfind.symm.trans hfound)
  have hroom : definitions.length = inner.room + 1 := hsound.room_enter hfind henter
  have hdefs : inner.definitions = definitions := Frame.enter_definitions henter
  have hjob := replaced_expand_eq (hsound.enter hfind henter) (hdefs ▸ hlinked)
    (hdefs ▸ hacyclic) hinner definitions.length (by omega)
  rw [hdefs] at hjob
  have hleft : definitions.inline (.task gate (.run target)) =
      .group gate none [job.replaced (definitions.expand inner.room)] := by
    simp only [inline, Job.replaced, hroom, expand, hfind]
  rw [hleft, inline, hjob]

theorem inline_plain (gate : Gate) {task : Task} (hplain : task.isPlain = true) :
    definitions.inline (.task gate task) = .task gate task :=
  Job.replaced_plain _ gate hplain

theorem inline_group (gate : Gate) (base : Option String) (jobs : List Job) :
    definitions.inline (.group gate base jobs) =
      .group gate base (jobs.map definitions.inline) := by
  rw [inline, Job.replaced, Job.allReplaced_eq_map]
  rfl

end Definitions

namespace Job

variable {ω : Type} [FileTree ω]

theorem runTask_congr (around : Surroundings) {frame flat : Frame}
    (hbase : flat.base = frame.base) (invoke : Frame → String → Run ω Unit)
    (id : Option String) {task : Task} (hplain : task.isPlain = true) :
    runTask around invoke flat id task = runTask around invoke frame id task := by
  cases task <;> simp_all [Task.isPlain, runTask]

theorem groupBase_congr {frame flat : Frame} (hbase : flat.base = frame.base)
    (base : Option String) :
    (groupBase flat base : Run ω (Option Path)) = groupBase frame base := by
  cases base <;> simp [groupBase, hbase]

theorem runAllIn_map_congr (around : Surroundings) {frame flat : Frame} (f : Job → Job)
    {jobs : List Job}
    (hjobs : ∀ job ∈ jobs, (runIn around flat (f job) : Run ω Unit) = runIn around frame job) :
    (runAllIn around flat (jobs.map f) : Run ω Unit) = runAllIn around frame jobs := by
  induction jobs with
  | nil => simp
  | cons job rest ih =>
      have hhead := hjobs job (by simp)
      have htail := ih fun other hother => hjobs other (List.mem_cons_of_mem _ hother)
      rw [List.map_cons, runAllIn_cons, runAllIn_cons, hhead, htail]

/-- The simulation: in a frame that only shares the base, the job with the definitions in their
places does what the job does. -/
theorem runIn_replaced (around : Surroundings) {frame : Frame} {job : Job}
    (hsound : frame.Sound) :
    frame.definitions.Linked → frame.definitions.Acyclic → frame.OnPath job.targets →
    ∀ flat : Frame, flat.base = frame.base →
      (runIn around flat (job.replaced (frame.definitions.expand frame.room)) : Run ω Unit) =
        runIn around frame job := by
  refine Job.frame_induction (motive := fun frame job =>
    frame.definitions.Linked → frame.definitions.Acyclic → frame.OnPath job.targets →
    ∀ flat : Frame, flat.base = frame.base →
      (runIn around flat (job.replaced (frame.definitions.expand frame.room)) : Run ω Unit) =
        runIn around frame job) ?_ ?_ ?_ frame job hsound
  · intro frame gate task _ hplain _ _ _ flat hbase
    rw [replaced_plain _ gate hplain, runIn_plain around flat gate hplain,
      runIn_plain around frame gate hplain, runTask_congr around hbase _ _ hplain]
  · intro frame gate target hsound ih hlinked hacyclic hpath flat hbase
    obtain ⟨job, inner, hfind, henter, hinner⟩ :=
      hpath.enter hlinked hacyclic (List.mem_singleton_self target)
    have hdefs := Frame.enter_definitions henter
    have hinside : (flat.withBase flat.base).base = inner.base :=
      hbase.trans (Frame.enter_base henter).symm
    have hjob := ih job inner hfind henter (hsound.enter hfind henter) (hdefs ▸ hlinked)
      (hdefs ▸ hacyclic) hinner (flat.withBase flat.base) hinside
    rw [hdefs] at hjob
    rw [runIn_run_entered around gate hsound hfind henter, ← hjob]
    simp only [replaced, hsound.room_enter hfind henter, Definitions.expand, hfind,
      runIn_group, groupBase, runAllIn_cons, runAllIn_nil, pure_bind, bind_pure_unit]
  · intro frame gate base jobs _ ih hlinked hacyclic hpath flat hbase
    rw [replaced, allReplaced_eq_map, runIn_group, runIn_group, groupBase_congr hbase]
    refine congrArg (gated gate) (congrArg _ (funext fun inside => ?_))
    refine runAllIn_map_congr around _ fun job hjob => ?_
    have htargets := targets_subset_allTargets hjob
    exact ih inside job hjob hlinked hacyclic ((hpath.mono htargets).withBase inside)
      (flat.withBase inside) rfl

end Job

/-- In a document without dangling runs and without cycles, each `run` task can be replaced by a
group of its definition: from every state, under every base and in all surroundings the jobs do
without definitions what they did with them. -/
theorem Document.runAll_inline {ω : Type} [FileTree ω] (around : Surroundings) (d : Document)
    (hlinked : d.Linked) (hacyclic : d.definitions.Acyclic) :
    (∀ gate target job, d.definitions.find? target = some job →
      d.definitions.inline (.task gate (.run target)) =
        .group gate none [d.definitions.inline job]) ∧
    (∀ gate task, task.isPlain = true →
      d.definitions.inline (.task gate task) = .task gate task) ∧
    (∀ gate base jobs, d.definitions.inline (.group gate base jobs) =
      .group gate base (jobs.map d.definitions.inline)) ∧
    ∀ (base : Option Path) (s : RunState ω),
      (Job.runAll around (Frame.root base []) (d.jobs.map d.definitions.inline)).run.run s =
        (Job.runAll around (Frame.root base d.definitions) d.jobs).run.run s := by
  refine ⟨fun gate target job => Definitions.inline_run hlinked.definitions hacyclic gate,
    fun gate task => Definitions.inline_plain gate, Definitions.inline_group, ?_⟩
  intro base s
  have hpath : (Frame.root base d.definitions).OnPath (Job.allTargets d.jobs) :=
    Frame.root_onPath base hlinked.jobs
  have hjobs : (Job.runAllIn around (Frame.root base [])
        (d.jobs.map d.definitions.inline) : Run ω Unit) =
      Job.runAllIn around (Frame.root base d.definitions) d.jobs := by
    refine Job.runAllIn_map_congr around _ fun job hjob => ?_
    have htargets := Job.targets_subset_allTargets hjob
    exact Job.runIn_replaced around (Frame.root_sound base d.definitions) hlinked.definitions
      hacyclic (hpath.mono htargets) (Frame.root base []) rfl
  rw [Job.runAll_root, Job.runAll_root, hjobs]

def Document.nested : Document where
  name := none
  title := none
  version := none
  description := none
  jobs :=
    [ .group ⟨none, none, none⟩ (some "app") [.task ⟨some "first", none, none⟩ (.run "page")],
      .task ⟨none, some "#first", some "Once more?"⟩ (.run "page") ]
  dependencies := []
  registryDependencies := []
  definitions :=
    [ ("page", .group ⟨none, none, none⟩ (some "pages")
        [ .task ⟨none, none, none⟩ (.run "title"),
          .task ⟨some "@page", none, none⟩ (.file ⟨"<#title>.md", .append "text"⟩) ]),
      ("title", .task ⟨some "title", none, none⟩ (.question ⟨"Title?", none, .ask⟩)) ]

theorem Document.runAll_inline_nested :
    Document.nested.Linked ∧ Document.nested.definitions.Acyclic ∧
      (Job.runAll ⟨⟨[]⟩, false⟩ (Frame.root none [])
          (Document.nested.jobs.map Document.nested.definitions.inline)).run.run
          (RunState.start (.withStore .empty) MemoryFiles.empty
            (.script [.text "index", .default])) =
        (Job.runAll ⟨⟨[]⟩, false⟩ (Frame.root none Document.nested.definitions)
          Document.nested.jobs).run.run
          (RunState.start (.withStore .empty) MemoryFiles.empty
            (.script [.text "index", .default])) := by
  have hlinked : Document.nested.Linked := by
    constructor <;>
      simp [Document.nested, Job.allTargets, Job.targets, Definitions.Linked,
        Definitions.Declares, Definitions.find?]
  have hacyclic : Document.nested.definitions.Acyclic := by
    refine Definitions.acyclic_of_rank (fun name => if name = "page" then 1 else 0) ?_
    simp [Document.nested, Job.allTargets, Job.targets]
  exact ⟨hlinked, hacyclic,
    (Document.runAll_inline ⟨⟨[]⟩, false⟩ Document.nested hlinked hacyclic).2.2.2 none _⟩

end Scaffold
