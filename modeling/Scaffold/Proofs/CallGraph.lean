import Mathlib.Data.List.Chain
import Mathlib.Data.List.Perm.Subperm
import Mathlib.Logic.Relation
import Scaffold.Run.Job

/-!
# The call graph of the definitions

Definitions run one another through `run` tasks at any depth of their groups.  A run keeps the chain
of definitions that are open.  No name stands on it twice, so that it is never longer than the list
of definitions and the bound of `Job.invoke` is never met; when the call graph has no cycles, the
chain is a path of the graph and no definition is refused either.
-/

namespace Scaffold

mutual
def Job.targets : Job → List String
  | .task _ (.run target) => [target]
  | .task _ _ => []
  | .group _ _ jobs => Job.allTargets jobs

def Job.allTargets : List Job → List String
  | [] => []
  | job :: rest => job.targets ++ Job.allTargets rest
end

theorem Job.targets_subset_allTargets {job : Job} {jobs : List Job} (hmem : job ∈ jobs) :
    job.targets ⊆ Job.allTargets jobs := by
  induction jobs with
  | nil => simp at hmem
  | cons first rest ih =>
      intro target htarget
      rw [Job.allTargets, List.mem_append]
      rcases List.mem_cons.mp hmem with rfl | hrest
      · exact Or.inl htarget
      · exact Or.inr (ih hrest htarget)

def Task.isPlain : Task → Bool
  | .run _ => false
  | _ => true

namespace Definitions

variable {definitions : Definitions}

def Declares (definitions : Definitions) (target : String) : Prop :=
  ∃ job, definitions.find? target = some job

/-- The definition of one name runs the definition of the other. -/
def Calls (definitions : Definitions) (caller callee : String) : Prop :=
  ∃ job, definitions.find? caller = some job ∧ callee ∈ job.targets

/-- No definition reaches itself. -/
def Acyclic (definitions : Definitions) : Prop :=
  ∀ name, ¬Relation.TransGen definitions.Calls name name

def Linked (definitions : Definitions) : Prop :=
  ∀ entry ∈ definitions, ∀ target ∈ entry.2.targets, definitions.Declares target

theorem mem_of_find? {target : String} {job : Job}
    (hfind : definitions.find? target = some job) : (target, job) ∈ definitions := by
  induction definitions with
  | nil => simp [find?] at hfind
  | cons entry rest ih =>
      obtain ⟨name, first⟩ := entry
      unfold find? at hfind
      split at hfind
      next heq =>
        obtain rfl := Option.some.inj hfind
        simp [heq]
      next => exact List.mem_cons_of_mem _ (ih hfind)

theorem Linked.declares {target callee : String} {job : Job} (hlinked : definitions.Linked)
    (hfind : definitions.find? target = some job) (hcallee : callee ∈ job.targets) :
    definitions.Declares callee :=
  hlinked _ (mem_of_find? hfind) callee hcallee

theorem acyclic_of_rank (rank : String → Nat)
    (hrank : ∀ entry ∈ definitions, ∀ callee ∈ entry.2.targets, rank callee < rank entry.1) :
    definitions.Acyclic := by
  have hlower : ∀ {caller callee}, Relation.TransGen definitions.Calls caller callee →
      rank callee < rank caller := by
    intro caller callee hreach
    induction hreach with
    | single hcalls =>
        obtain ⟨job, hfind, hmem⟩ := hcalls
        exact hrank _ (mem_of_find? hfind) _ hmem
    | tail _ hcalls ih =>
        obtain ⟨job, hfind, hmem⟩ := hcalls
        exact (hrank _ (mem_of_find? hfind) _ hmem).trans ih
  exact fun name hreach => lt_irrefl _ (hlower hreach)

theorem Acyclic.nodup_of_isChain (hacyclic : definitions.Acyclic) {names : List String}
    (hpath : names.IsChain definitions.Calls) : names.Nodup := by
  have hreach : names.IsChain (Relation.TransGen definitions.Calls) :=
    hpath.imp fun _ _ hcalls => Relation.TransGen.single hcalls
  rw [List.isChain_iff_pairwise] at hreach
  refine hreach.imp fun {first second} hreaches heq => ?_
  subst heq
  exact hacyclic _ hreaches

end Definitions

structure Document.Linked (d : Document) : Prop where
  jobs : ∀ target ∈ Job.allTargets d.jobs, d.definitions.Declares target
  definitions : d.definitions.Linked

namespace Frame

variable {frame inner : Frame} {target : String} {job : Job}

/-- No name stands twice on the chain, and all are declared. -/
structure Sound (frame : Frame) : Prop where
  nodup : frame.chain.Nodup
  declared : ∀ name ∈ frame.chain, frame.definitions.Declares name

/-- How many definitions may still be entered. -/
def room (frame : Frame) : Nat := frame.definitions.length - frame.chain.length

@[simp] theorem withBase_room (base : Option Path) (frame : Frame) :
    (frame.withBase base).room = frame.room := rfl

theorem root_sound (base : Option Path) (definitions : Definitions) :
    (Frame.root base definitions).Sound := by
  constructor <;> simp [Frame.root]

theorem Sound.withBase (hsound : frame.Sound) (base : Option Path) :
    (frame.withBase base).Sound := ⟨hsound.nodup, hsound.declared⟩

theorem Sound.length_le (hsound : frame.Sound) :
    frame.chain.length ≤ frame.definitions.length := by
  have hsubset : frame.chain ⊆ frame.definitions.map Prod.fst := by
    intro name hname
    obtain ⟨job, hfind⟩ := hsound.declared name hname
    exact List.mem_map.mpr ⟨_, Definitions.mem_of_find? hfind, rfl⟩
  simpa using (hsound.nodup.subperm hsubset).length_le

theorem enter_eq_ok_iff :
    frame.enter target = .ok inner ↔
      target ∉ frame.chain ∧ inner = { frame with chain := frame.chain ++ [target] } := by
  unfold enter
  by_cases hmem : target ∈ frame.chain <;> simp [hmem, eq_comm]

theorem Sound.enter (hsound : frame.Sound)
    (hfind : frame.definitions.find? target = some job)
    (henter : frame.enter target = .ok inner) : inner.Sound := by
  obtain ⟨hfresh, rfl⟩ := enter_eq_ok_iff.mp henter
  constructor
  · simpa [List.nodup_append, hsound.nodup] using fun name hname =>
      ne_of_mem_of_not_mem hname hfresh
  · intro name hname
    rcases List.mem_append.mp hname with hold | hnew
    · exact hsound.declared name hold
    · obtain rfl := List.mem_singleton.mp hnew
      exact ⟨job, hfind⟩

theorem Sound.room_enter (hsound : frame.Sound)
    (hfind : frame.definitions.find? target = some job)
    (henter : frame.enter target = .ok inner) : frame.room = inner.room + 1 := by
  have hle := (hsound.enter hfind henter).length_le
  obtain ⟨-, rfl⟩ := enter_eq_ok_iff.mp henter
  simp only [List.length_append, List.length_singleton] at hle
  simp only [room, List.length_append, List.length_singleton]
  omega

/-- How many definitions are not open. -/
def unopened (frame : Frame) : Nat :=
  frame.definitions.countP fun entry => !frame.chain.contains entry.1

theorem unopened_le_length (frame : Frame) : frame.unopened ≤ frame.definitions.length :=
  List.countP_le_length

/-- A definition that is entered is open from then on. -/
theorem unopened_enter_lt (hfind : frame.definitions.find? target = some job)
    (henter : frame.enter target = .ok inner) : inner.unopened < frame.unopened := by
  obtain ⟨hfresh, rfl⟩ := enter_eq_ok_iff.mp henter
  obtain ⟨front, back, hsplit⟩ := List.append_of_mem (Definitions.mem_of_find? hfind)
  have hfewer : ∀ entries : Definitions,
      entries.countP (fun entry => !(frame.chain ++ [target]).contains entry.1) ≤
        entries.countP fun entry => !frame.chain.contains entry.1 := fun entries =>
    List.countP_mono_left fun entry _ hclosed => by simp_all
  have hfront := hfewer front
  have hback := hfewer back
  have hopens : (!(frame.chain ++ [target]).contains target) = false := by simp
  have hclosed : (!frame.chain.contains target) = true := by simpa using hfresh
  simp only [unopened, hsplit, List.countP_append, List.countP_cons, hopens, hclosed]
  simp only [Bool.false_eq_true, if_false, if_true]
  omega

/-- The chain is a path of the call graph, its last name calls the targets, and these are
declared. -/
structure OnPath (frame : Frame) (targets : List String) : Prop where
  path : frame.chain.IsChain frame.definitions.Calls
  last : ∀ caller ∈ frame.chain.getLast?, ∀ target ∈ targets,
    frame.definitions.Calls caller target
  declared : ∀ target ∈ targets, frame.definitions.Declares target

theorem root_onPath (base : Option Path) {definitions : Definitions} {targets : List String}
    (hdeclared : ∀ target ∈ targets, definitions.Declares target) :
    (Frame.root base definitions).OnPath targets := by
  refine ⟨?_, ?_, hdeclared⟩ <;> simp [Frame.root]

theorem OnPath.mono {targets fewer : List String} (hpath : frame.OnPath targets)
    (hsubset : fewer ⊆ targets) : frame.OnPath fewer :=
  ⟨hpath.path,
    fun caller hcaller target htarget => hpath.last caller hcaller target (hsubset htarget),
    fun target htarget => hpath.declared target (hsubset htarget)⟩

theorem OnPath.withBase {targets : List String} (hpath : frame.OnPath targets)
    (base : Option Path) : (frame.withBase base).OnPath targets :=
  ⟨hpath.path, hpath.last, hpath.declared⟩

/-- Without cycles no definition is refused. -/
theorem OnPath.enter {targets : List String} (hpath : frame.OnPath targets)
    (hlinked : frame.definitions.Linked) (hacyclic : frame.definitions.Acyclic)
    (htarget : target ∈ targets) :
    ∃ job inner, frame.definitions.find? target = some job ∧ frame.enter target = .ok inner ∧
      inner.OnPath job.targets := by
  have hlonger : (frame.chain ++ [target]).IsChain frame.definitions.Calls := by
    refine hpath.path.append (List.isChain_singleton _) ?_
    intro caller hcaller callee hcallee
    obtain rfl : target = callee := by simpa using hcallee
    exact hpath.last caller hcaller target htarget
  have hfresh : target ∉ frame.chain := by
    have hnodup := hacyclic.nodup_of_isChain hlonger
    rw [List.nodup_append] at hnodup
    exact fun hmem => hnodup.2.2 target hmem target (by simp) rfl
  obtain ⟨job, hfind⟩ := hpath.declared target htarget
  refine ⟨job, _, hfind, enter_eq_ok_iff.mpr ⟨hfresh, rfl⟩, hlonger, ?_, ?_⟩
  · intro caller hcaller callee hcallee
    obtain rfl : target = caller := by simpa using hcaller
    exact ⟨job, hfind, hcallee⟩
  · exact fun callee hcallee => hlinked.declares hfind hcallee

theorem enter_base (henter : frame.enter target = .ok inner) : inner.base = frame.base := by
  obtain ⟨-, rfl⟩ := enter_eq_ok_iff.mp henter
  rfl

theorem enter_definitions (henter : frame.enter target = .ok inner) :
    inner.definitions = frame.definitions := by
  obtain ⟨-, rfl⟩ := enter_eq_ok_iff.mp henter
  rfl

end Frame

namespace Job

variable {ω : Type} [FileTree ω] {frame inner : Frame} {target : String} {job : Job}

def runIn (around : Surroundings) (frame : Frame) (job : Job) : Run ω Unit :=
  exec around (invoke around frame.room) frame job

def runAllIn (around : Surroundings) (frame : Frame) (jobs : List Job) : Run ω Unit :=
  execAll around (invoke around frame.room) frame jobs

theorem runAll_root (around : Surroundings) (base : Option Path) (definitions : Definitions)
    (jobs : List Job) :
    (runAll around (Frame.root base definitions) jobs : Run ω Unit) =
      runAllIn around (Frame.root base definitions) jobs := rfl

theorem exec_plain (around : Surroundings) (enter : Frame → String → Run ω Unit) (frame : Frame)
    (gate : Gate) {task : Task} (hplain : task.isPlain = true) :
    exec around enter frame (.task gate task) =
      gated gate (runTask around (fun _ _ => pure ()) frame gate.id task) := by
  cases task <;> simp_all [Task.isPlain, exec, runTask]

theorem runIn_plain (around : Surroundings) (frame : Frame) (gate : Gate) {task : Task}
    (hplain : task.isPlain = true) :
    (runIn around frame (.task gate task) : Run ω Unit) =
      gated gate (runTask around (fun _ _ => pure ()) frame gate.id task) :=
  exec_plain around (invoke around frame.room) frame gate hplain

/-- In a sound frame the bound of `invoke` is never met. -/
theorem runIn_run_entered (around : Surroundings) (gate : Gate) (hsound : frame.Sound)
    (hfind : frame.definitions.find? target = some job)
    (henter : frame.enter target = .ok inner) :
    (runIn around frame (.task gate (.run target)) : Run ω Unit) =
      gated gate (runIn around inner job) := by
  simp [runIn, exec, runTask, invoke, hfind, henter, hsound.room_enter hfind henter, orFault]

theorem runIn_group (around : Surroundings) (frame : Frame) (gate : Gate)
    (base : Option String) (jobs : List Job) :
    (runIn around frame (.group gate base jobs) : Run ω Unit) =
      gated gate (do
        let base ← groupBase frame base
        runAllIn around (frame.withBase base) jobs) := by
  simp [runIn, runAllIn, exec]

@[simp] theorem runAllIn_nil (around : Surroundings) (frame : Frame) :
    (runAllIn around frame [] : Run ω Unit) = pure () := by
  simp [runAllIn, execAll]

theorem runAllIn_cons (around : Surroundings) (frame : Frame) (job : Job) (rest : List Job) :
    (runAllIn around frame (job :: rest) : Run ω Unit) = (do
      runIn around frame job
      runAllIn around frame rest) := by
  simp [runAllIn, runIn, execAll]

/-- Induction on a run: over the jobs of a group, and over the definitions that are entered, of
which there is always one fewer left. -/
theorem frame_induction {motive : Frame → Job → Prop}
    (plain : ∀ frame gate task, frame.Sound → task.isPlain = true →
      motive frame (.task gate task))
    (run : ∀ frame gate target, frame.Sound →
      (∀ job inner, frame.definitions.find? target = some job →
        frame.enter target = .ok inner → inner.Sound → motive inner job) →
      motive frame (.task gate (.run target)))
    (group : ∀ frame gate base jobs, frame.Sound →
      (∀ inside, ∀ job ∈ jobs, motive (frame.withBase inside) job) →
      motive frame (.group gate base jobs))
    (frame : Frame) (job : Job) (hsound : frame.Sound) : motive frame job := by
  match job with
  | .task gate (.run target) =>
      refine run frame gate target hsound fun job inner hfind henter hinner => ?_
      have hroom := hsound.room_enter hfind henter
      exact frame_induction plain run group inner job hinner
  | .task gate (.file _) => exact plain frame gate _ hsound rfl
  | .task gate (.question _) => exact plain frame gate _ hsound rfl
  | .task gate (.registryDependencies _) => exact plain frame gate _ hsound rfl
  | .task gate (.dependencies _) => exact plain frame gate _ hsound rfl
  | .task gate (.log ..) => exact plain frame gate _ hsound rfl
  | .group gate base jobs =>
      refine group frame gate base jobs hsound fun inside job hjob => ?_
      have hsize := List.sizeOf_lt_of_mem hjob
      exact frame_induction plain run group (frame.withBase inside) job
        (hsound.withBase inside)
termination_by (frame.room, sizeOf job)
decreasing_by
  · exact Prod.Lex.left _ _ (by omega)
  · exact Prod.Lex.right _ (by simp; omega)

end Job
end Scaffold
