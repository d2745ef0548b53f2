import Mathlib.Logic.Function.Iterate
import Scaffold.Proofs.CallGraph
import Scaffold.Proofs.Outcome

/-!
# Runs step by step

A run is a list of errands that is worked off from the front.  An errand takes the state to the next
one and leaves the errands that are to be done in its place; the first that fails ends the run.
What the interpreter comes to is the last moment of the steps, so that a property of single errands
holds at every moment of a run.
-/

namespace Scaffold

open Run

variable {ω α : Type}

inductive Errand where
  /-- Take the base of the run and the document that the text names. -/
  | root (extend : Option String) (text : String)
  | document (base : Option Path) (bound : Nat) (source : DocumentSource)
  | dependency (base : Option Path) (bound : Nat) (entry : Dependency)
  | registry (names : List String)
  /-- Decide whether a job runs. -/
  | offer (frame : Frame) (job : Job)
  /-- Run a job that has passed its gate. -/
  | body (frame : Frame) (job : Job)
  /-- Mark an id as done. -/
  | record (id : String)

namespace Errand

variable [FileTree ω]

def ofDocument (base : Option Path) (bound : Nat) (document : Document) : List Errand :=
  document.jobs.map (.offer (Frame.root base document.definitions)) ++
    document.dependencies.map (.dependency base bound) ++ [.registry document.registryDependencies]

def ofJob (frame : Frame) (job : Job) : List Errand :=
  .body frame job :: job.gate.id.toList.map .record

def runEntry (base : Option Path) (bound : Nat) (entry : Dependency) : Run ω (List Errand) := do
  match Document.linked? entry with
  | some source =>
      if (← get).isVisited source.key then return []
      modify (RunState.visit source.key)
      return [.document base bound source]
  | none =>
      modify fun s =>
        { s with pending := { s.pending with packages := s.pending.packages ++ [entry] } }
      return []

/-- Runs a job that has passed its gate up to the jobs in it. -/
def runBody (around : Surroundings) (frame : Frame) : Job → Run ω (List Errand)
  | .task _ (.run target) => do
      match frame.definitions.find? target with
      | none => throw (.document (.unknownDefinition target))
      | some job => return [.offer (← orFault (frame.enter target)) job]
  | .task gate action => do
      Job.runTask around (fun _ _ => return) frame gate.id action
      return []
  | .group _ base jobs => do
      let base ← Job.groupBase frame base
      return jobs.map (.offer (frame.withBase base))

/-- Does an errand and gives the errands that take its place. -/
def perform (around : Surroundings) : Errand → Run ω (List Errand)
  | .root extend text => do
      let source := DocumentSource.parse text
      modify (RunState.visit source.key)
      return [.document (← Document.extendedBase extend) (Document.depthBound around.web) source]
  | .document _ 0 _ => throw (.internal "documents are nested too deeply")
  | .document base (bound + 1) source =>
      return ofDocument base bound (← Document.obtain around.web source)
  | .dependency base bound entry => runEntry base bound entry
  | .registry names => do
      modify fun s => { s with pending := s.pending.addRegistry names }
      return []
  | .offer frame job => do
      if ← Job.shouldRun job.gate then return ofJob frame job
      return []
  | .body frame job => runBody around frame job
  | .record id => do
      modify (Job.finish id)
      return []

end Errand

/-- A moment of a run: what is to be done, the state, and the error that has ended the run. -/
structure Moment (ω : Type) where
  agenda : List Errand
  state : RunState ω
  failure : Option RunError

namespace Moment

def start (agenda : List Errand) (state : RunState ω) : Moment ω := ⟨agenda, state, none⟩

/-- The moment after an errand; a failure drops all that was to be done. -/
def resume (rest : List Errand) : Except RunError (List Errand) × RunState ω → Moment ω
  | (.ok more, t) => ⟨more ++ rest, t, none⟩
  | (.error e, t) => ⟨[], t, some e⟩

def ended : Except RunError Unit × RunState ω → Moment ω
  | (.ok _, t) => ⟨[], t, none⟩
  | (.error e, t) => ⟨[], t, some e⟩

def next [FileTree ω] (around : Surroundings) (m : Moment ω) : Moment ω :=
  match m.agenda with
  | [] => m
  | errand :: rest => resume rest (outcome (errand.perform around) m.state)

def after [FileTree ω] (around : Surroundings) (steps : Nat) (m : Moment ω) : Moment ω :=
  (next around)^[steps] m

section Steps

variable [FileTree ω] {around : Surroundings} {m : Moment ω} {errand : Errand}
  {rest : List Errand} {s : RunState ω}

@[simp] theorem after_zero : m.after around 0 = m := rfl

theorem after_succ (steps : Nat) :
    m.after around (steps + 1) = (m.after around steps).next around := by
  rw [after, after, Function.iterate_succ_apply']

theorem after_add (first second : Nat) :
    m.after around (first + second) = (m.after around first).after around second := by
  rw [after, after, after, Nat.add_comm, Function.iterate_add_apply]

theorem next_of_nil (hagenda : m.agenda = []) : m.next around = m := by
  simp [next, hagenda]

theorem next_of_cons (hagenda : m.agenda = errand :: rest) :
    m.next around = resume rest (outcome (errand.perform around) m.state) := by
  simp [next, hagenda]

omit [FileTree ω] in
@[simp] theorem state_resume (r : Except RunError (List Errand) × RunState ω) :
    (resume rest r).state = r.2 := by
  obtain ⟨_ | _, t⟩ := r <;> rfl

theorem state_next_of_cons (hagenda : m.agenda = errand :: rest) :
    (m.next around).state = (outcome (errand.perform around) m.state).2 := by
  rw [next_of_cons hagenda, state_resume]

/-- What every errand keeps of the state is kept at every moment. -/
theorem keeps_after {P : RunState ω → Prop}
    (hperform : ∀ (errand : Errand) (s : RunState ω), P s →
      P (outcome (errand.perform around) s).2)
    (hstart : P m.state) (steps : Nat) : P (m.after around steps).state := by
  induction steps with
  | zero => exact hstart
  | succ n ih =>
      rw [after_succ]
      rcases hagenda : (m.after around n).agenda with _ | ⟨errand, rest⟩
      · rw [next_of_nil hagenda]
        exact ih
      · rw [state_next_of_cons hagenda]
        exact hperform errand _ ih

/-- One step keeps what the first errand keeps of the state and of what is to be done, if it gives
no errands but such as these. -/
theorem invariant_next {P : RunState ω → Prop} {Q : RunState ω → Errand → Prop}
    (hstate : P m.state) (hagenda : ∀ errand ∈ m.agenda, Q m.state errand)
    (hperform : ∀ errand rest, m.agenda = errand :: rest →
      ∀ r t, outcome (errand.perform around) m.state = (r, t) →
        P t ∧ (∀ other, Q m.state other → Q t other) ∧
          ∀ more, r = .ok more → ∀ fresh ∈ more, Q t fresh) :
    P (m.next around).state ∧ ∀ errand ∈ (m.next around).agenda, Q (m.next around).state errand := by
  rcases hlist : m.agenda with _ | ⟨errand, rest⟩
  · rw [next_of_nil hlist]
    exact ⟨hstate, hagenda⟩
  · rw [next_of_cons hlist]
    rcases hout : outcome (errand.perform around) m.state with ⟨e | more, t⟩
    · obtain ⟨hafter, -, -⟩ := hperform errand rest hlist _ t hout
      exact ⟨hafter, by simp [resume]⟩
    · obtain ⟨hafter, hkept, hmore⟩ := hperform errand rest hlist _ t hout
      refine ⟨hafter, fun other hother => ?_⟩
      rcases List.mem_append.mp hother with hfresh | hold
      · exact hmore more rfl other hfresh
      · exact hkept other (hagenda other (by simp [hlist, hold]))

end Steps

def Reaches [FileTree ω] (around : Surroundings) (m last : Moment ω) : Prop :=
  ∃ steps, m.after around steps = last

@[simp] theorem state_ended (r : Except RunError Unit × RunState ω) :
    (ended r).state = r.2 := by
  obtain ⟨_ | _, t⟩ := r <;> rfl

/-- The steps come to what the action comes to: in the end nothing is left to be done, and state and
result are those of the action. -/
def EndsAs [FileTree ω] (around : Surroundings) (m : Moment ω) (act : Run ω Unit) : Prop :=
  Reaches around m (ended (outcome act m.state))

theorem after_of_nil [FileTree ω] {around : Surroundings} {m : Moment ω} (hagenda : m.agenda = [])
    (steps : Nat) : m.after around steps = m := by
  induction steps with
  | zero => rfl
  | succ n ih => rw [after_succ, ih, next_of_nil hagenda]

/-- When a run has failed, nothing is left to be done. -/
theorem agenda_of_failure [FileTree ω] {around : Surroundings} {m : Moment ω} {e : RunError}
    {steps : Nat} (hstart : m.failure = none)
    (hfailure : (m.after around steps).failure = some e) : (m.after around steps).agenda = [] := by
  induction steps with
  | zero =>
      rw [after_zero, hstart] at hfailure
      cases hfailure
  | succ n ih =>
      rw [after_succ] at hfailure ⊢
      rcases hagenda : (m.after around n).agenda with _ | ⟨errand, rest⟩
      · rw [next_of_nil hagenda]
        exact hagenda
      · rw [next_of_cons hagenda] at hfailure ⊢
        rcases hout : outcome (errand.perform around) (m.after around n).state with ⟨e | more, t⟩
        · rfl
        · simp [hout, resume] at hfailure

theorem failure_eq_none_of_agenda [FileTree ω] {around : Surroundings} {m : Moment ω}
    {errand : Errand} {rest : List Errand} {steps : Nat} (hstart : m.failure = none)
    (hagenda : (m.after around steps).agenda = errand :: rest) :
    (m.after around steps).failure = none := by
  by_contra hsome
  obtain ⟨e, hfailure⟩ := Option.ne_none_iff_exists'.mp hsome
  rw [agenda_of_failure hstart hfailure] at hagenda
  cases hagenda

/-- What holds for good from some moment on holds in the end. -/
theorem EndsAs.after_add [FileTree ω] {around : Surroundings} {m : Moment ω} {act : Run ω Unit}
    (hends : m.EndsAs around act) (first : Nat) :
    ∃ steps, (m.after around (first + steps)) = ended (outcome act m.state) := by
  obtain ⟨steps, hlast⟩ := hends
  have hdone : (ended (outcome act m.state)).agenda = [] := by
    rcases outcome act m.state with ⟨e | ⟨⟩, t⟩ <;> rfl
  refine ⟨steps, ?_⟩
  rw [Nat.add_comm, Moment.after_add, hlast, after_of_nil hdone]

/-- No step of a run that ends well has failed. -/
theorem EndsAs.failure_eq_none [FileTree ω] {around : Surroundings} {m : Moment ω}
    {act : Run ω Unit} (hends : m.EndsAs around act) (hstart : m.failure = none)
    (hwell : (outcome act m.state).1 = .ok ()) (steps : Nat) :
    (m.after around steps).failure = none := by
  by_contra hfailed
  obtain ⟨e, hfailure⟩ := Option.ne_none_iff_exists'.mp hfailed
  obtain ⟨more, hlast⟩ := hends.after_add steps
  rw [Moment.after_add, after_of_nil (agenda_of_failure hstart hfailure)] at hlast
  rcases hout : outcome act m.state with ⟨e | ⟨⟩, t⟩
  · rw [hout] at hwell
    cases hwell
  · rw [hlast, hout] at hfailed
    exact hfailed rfl

/-- What every errand keeps of the state is kept by an action that the steps come to. -/
theorem EndsAs.keeps [FileTree ω] {around : Surroundings} {m : Moment ω} {act : Run ω Unit}
    {P : RunState ω → Prop} (hends : m.EndsAs around act)
    (hperform : ∀ (errand : Errand) (s : RunState ω), P s →
      P (outcome (errand.perform around) s).2)
    (hstart : P m.state) : P (outcome act m.state).2 := by
  obtain ⟨steps, hlast⟩ := hends
  have hkept := keeps_after hperform hstart steps
  rw [hlast, state_ended] at hkept
  exact hkept

namespace Reaches

variable [FileTree ω] {around : Surroundings} {m between last : Moment ω}

theorem refl : Reaches around m m := ⟨0, rfl⟩

theorem trans (hfirst : Reaches around m between) (hsecond : Reaches around between last) :
    Reaches around m last := by
  obtain ⟨first, rfl⟩ := hfirst
  obtain ⟨second, rfl⟩ := hsecond
  exact ⟨first + second, after_add first second⟩

theorem head (hlast : Reaches around (m.next around) last) : Reaches around m last :=
  trans ⟨1, rfl⟩ hlast

end Reaches
end Moment

/-- The errands that a plan leaves, once they are done, have come to what the action comes to. -/
def Run.Unfolds [FileTree ω] (around : Surroundings) (plan : Run ω (List Errand))
    (act : Run ω Unit) (s : RunState ω) : Prop :=
  ∀ rest, Moment.Reaches around (Moment.resume rest (outcome plan s))
    (Moment.resume rest (outcome (do act; return []) s))

namespace Run

open Moment (resume)

variable [FileTree ω] {around : Surroundings} {plan : Run ω (List Errand)} {act : Run ω Unit}
  {s : RunState ω}

theorem unfolds_self : Unfolds around (do act; return []) act s := fun _ => Moment.Reaches.refl

theorem unfolds_pure : Unfolds around (pure []) (pure ()) s := fun _ => Moment.Reaches.refl

theorem unfolds_throw (e : RunError) : Unfolds around (throw e) (throw e) s :=
  fun _ => Moment.Reaches.refl

theorem Unfolds.bind {first : Run ω α} {plan : α → Run ω (List Errand)} {act : α → Run ω Unit}
    (hthen : ∀ a t, outcome first s = (.ok a, t) → Unfolds around (plan a) (act a) t) :
    Unfolds around (first >>= plan) (first >>= act) s := by
  intro rest
  rw [bind_assoc]
  rcases hfirst : outcome first s with ⟨e | a, t⟩
  · rw [outcome_bind_error hfirst, outcome_bind_error hfirst]
    exact Moment.Reaches.refl
  · rw [outcome_bind_ok hfirst, outcome_bind_ok hfirst]
    exact hthen a t hfirst rest

theorem Unfolds.errand {errand : Errand} (hplan : Unfolds around (errand.perform around) act s) :
    Unfolds around (pure [errand]) act s := fun rest => (hplan rest).head

theorem Unfolds.append {front back : List Errand} {first second : Run ω Unit}
    (hfront : Unfolds around (pure front) first s)
    (hback : ∀ t, outcome first s = (.ok (), t) → Unfolds around (pure back) second t) :
    Unfolds around (pure (front ++ back)) (do first; second) s := by
  intro rest
  have hlead := hfront (back ++ rest)
  rw [bind_assoc]
  rcases hfirst : outcome first s with ⟨e | ⟨⟩, t⟩
  · rw [outcome_bind_error hfirst] at hlead ⊢
    simpa [resume] using hlead
  · rw [outcome_bind_ok hfirst] at hlead ⊢
    refine Moment.Reaches.trans ?_ (hback t hfirst rest)
    simpa [resume] using hlead

theorem Unfolds.endsAs {agenda : List Errand} (hact : Unfolds around (pure agenda) act s) :
    (Moment.start agenda s).EndsAs around act := by
  obtain ⟨steps, hlast⟩ := hact []
  refine ⟨steps, ?_⟩
  rw [outcome_pure, resume, List.append_nil] at hlast
  rw [Moment.start, hlast]
  rcases hout : outcome act s with ⟨e | ⟨⟩, t⟩
  · rw [outcome_bind_error hout]
    rfl
  · rw [outcome_bind_ok hout]
    rfl

end Run

namespace Job

variable [FileTree ω] {around : Surroundings} {frame : Frame} {s : RunState ω}

theorem unfolds_record (gate : Gate) :
    Unfolds around (pure (gate.id.toList.map .record))
      (match gate.id with
        | some id => modify (finish id)
        | none => return) s := by
  cases gate.id with
  | none => exact unfolds_pure
  | some id => exact Unfolds.errand unfolds_self

theorem unfolds_gated (job : Job) {act : Run ω Unit}
    (hbody : ∀ t, Unfolds around (Errand.runBody around frame job) act t) :
    Unfolds around (pure [.offer frame job]) (gated job.gate act) s := by
  refine Unfolds.errand (Unfolds.bind fun runs t _ => ?_)
  cases runs with
  | false => exact unfolds_pure
  | true =>
      exact Unfolds.append (Unfolds.errand (hbody t)) fun u _ => unfolds_record job.gate

/-- The body of a plain task leaves no errands. -/
theorem unfolds_plain (bound : Nat) (gate : Gate) {task : Task} (hplain : task.isPlain = true)
    (s : RunState ω) :
    Unfolds around (pure [.offer frame (.task gate task)])
      (exec around (invoke around bound) frame (.task gate task)) s := by
  rw [exec_plain around (invoke around bound) frame gate hplain]
  refine unfolds_gated (.task gate task) fun t => ?_
  cases task with
  | run target => cases hplain
  | _ => simpa only [Errand.runBody] using unfolds_self

theorem unfolds_execAll {enter : Frame → String → Run ω Unit} {jobs : List Job}
    (hjobs : ∀ job ∈ jobs, ∀ t : RunState ω,
      Unfolds around (pure [.offer frame job]) (exec around enter frame job) t) :
    Unfolds around (pure (jobs.map (.offer frame))) (execAll around enter frame jobs) s := by
  induction jobs generalizing s with
  | nil =>
      rw [execAll]
      exact unfolds_pure
  | cons job rest ih =>
      rw [execAll]
      exact Unfolds.append (hjobs job (by simp) s) fun t _ =>
        ih fun other hother => hjobs other (List.mem_cons_of_mem _ hother)

/-- A job comes to what its errands come to, if the bound covers the definitions that are not
open. -/
theorem unfolds_exec (around : Surroundings) (bound : Nat) (frame : Frame) (job : Job)
    (hbound : frame.unopened ≤ bound) (s : RunState ω) :
    Unfolds around (pure [.offer frame job]) (exec around (invoke around bound) frame job) s := by
  match job with
  | .group gate base jobs =>
      rw [exec]
      refine unfolds_gated (.group gate base jobs) fun t => Unfolds.bind fun inside u _ => ?_
      exact unfolds_execAll fun job hjob v =>
        have hsize := List.sizeOf_lt_of_mem hjob
        unfolds_exec around bound (frame.withBase inside) job hbound v
  | .task gate (.run target) =>
      rw [exec]
      refine unfolds_gated (.task gate (.run target)) fun t => ?_
      rw [runTask, invoke, Errand.runBody]
      -- What cannot be entered fails in the errand as it does in the interpreter.
      rcases hfind : frame.definitions.find? target with _ | job
      · exact unfolds_throw _
      · rcases henter : frame.enter target with e | inner
        · exact unfolds_throw _
        · have hfewer := Frame.unopened_enter_lt hfind henter
          obtain ⟨below, rfl⟩ : ∃ below, bound = below + 1 := ⟨bound - 1, by omega⟩
          exact unfolds_exec around below inner job (by omega) t
  | .task gate (.file file) => exact unfolds_plain bound gate rfl s
  | .task gate (.question q) => exact unfolds_plain bound gate rfl s
  | .task gate (.registryDependencies names) => exact unfolds_plain bound gate rfl s
  | .task gate (.dependencies names) => exact unfolds_plain bound gate rfl s
  | .task gate (.log level message) => exact unfolds_plain bound gate rfl s
termination_by (bound, sizeOf job)

theorem unfolds_run (around : Surroundings) (frame : Frame) (job : Job) (s : RunState ω) :
    Unfolds around (pure [.offer frame job]) (run around frame job) s :=
  unfolds_exec around _ frame job frame.unopened_le_length s

theorem unfolds_runAll (around : Surroundings) (frame : Frame) (jobs : List Job)
    (s : RunState ω) :
    Unfolds around (pure (jobs.map (.offer frame))) (runAll around frame jobs) s :=
  unfolds_execAll fun job _ => unfolds_exec around _ frame job frame.unopened_le_length

theorem endsAs_runAll (around : Surroundings) (base : Option Path) (definitions : Definitions)
    (jobs : List Job) (s : RunState ω) :
    (Moment.start (jobs.map (.offer (Frame.root base definitions))) s).EndsAs around
      (runAll around (Frame.root base definitions) jobs) :=
  (unfolds_runAll around (Frame.root base definitions) jobs s).endsAs

end Job

namespace Document

variable [FileTree ω] {around : Surroundings} {base : Option Path} {bound : Nat}
  {s : RunState ω}

theorem unfolds_follow (hload : ∀ source (t : RunState ω),
      Unfolds around (pure [.document base bound source]) (load around base bound source) t)
    (entry : Dependency) :
    Unfolds around (pure [.dependency base bound entry])
      (follow (load around base bound) entry) s := by
  refine Unfolds.errand ?_
  simp only [Errand.perform, Errand.runEntry, follow]
  rcases linked? entry with _ | source
  · exact unfolds_self
  · refine Unfolds.bind fun seen t _ => ?_
    cases seen.isVisited source.key with
    | true => exact unfolds_pure
    | false => exact Unfolds.bind fun _ u _ => hload source u

theorem unfolds_followAll (hload : ∀ source (t : RunState ω),
      Unfolds around (pure [.document base bound source]) (load around base bound source) t)
    (entries : List Dependency) :
    Unfolds around (pure (entries.map (.dependency base bound)))
      (followAll (load around base bound) entries) s := by
  induction entries generalizing s with
  | nil => exact unfolds_pure
  | cons entry rest ih =>
      exact Unfolds.append (unfolds_follow hload entry) fun t _ => ih

theorem unfolds_load (around : Surroundings) (base : Option Path) (bound : Nat)
    (source : DocumentSource) (s : RunState ω) :
    Unfolds around (pure [.document base bound source]) (load around base bound source) s := by
  induction bound generalizing source s with
  | zero => exact Unfolds.errand (unfolds_throw _)
  | succ bound ih =>
      refine Unfolds.errand (Unfolds.bind fun document t _ => ?_)
      have hjobs := Job.unfolds_runAll around (Frame.root base document.definitions) document.jobs t
      rw [Errand.ofDocument, List.append_assoc]
      refine Unfolds.append hjobs fun u _ => ?_
      exact Unfolds.append (unfolds_followAll ih document.dependencies) fun v _ =>
        Unfolds.errand unfolds_self

theorem unfolds_loadRoot (around : Surroundings) (extend : Option String) (text : String)
    (s : RunState ω) :
    Unfolds around (pure [.root extend text]) (loadRoot around extend text) s := by
  refine Unfolds.errand (Unfolds.bind fun _ t _ => Unfolds.bind fun base u _ => ?_)
  exact unfolds_load around base _ _ u

theorem endsAs_loadRoot (around : Surroundings) (extend : Option String) (text : String)
    (s : RunState ω) :
    (Moment.start [.root extend text] s).EndsAs around (loadRoot around extend text) :=
  (unfolds_loadRoot around extend text s).endsAs

end Document
end Scaffold
