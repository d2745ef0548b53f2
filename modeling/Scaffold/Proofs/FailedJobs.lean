import Scaffold.Proofs.Completion
import Scaffold.Proofs.JobErrands

/-!
# What failed jobs leave behind

A job that fails alone leaves nothing but its calls.  A job that fails by a job in it leaves what
was done by the jobs in it that had ended well, at whatever depth they lie, and no mark of its own:
an id is noted behind the body of its job, and that place is not reached.
-/

namespace Scaffold

open Run

/-- Texts that cannot be put into a file change no file. -/
class FileTree.Atomic (ω : Type) [FileTree ω] : Prop where
  write : ∀ {path content} {files : ω} {e}, (FileTree.write path content files).1 = .error e →
    (FileTree.write path content files).2 = files
  append : ∀ {path content} {files : ω} {e}, (FileTree.append path content files).1 = .error e →
    (FileTree.append path content files).2 = files

instance : FileTree.Atomic MemoryFiles := ⟨nofun, nofun⟩

theorem Limited.guarded_of_error {ω : Type} {limited : Limited ω} {path : Path}
    {act : ω → Except RunError Unit × ω} {e : RunError}
    (hact : ∀ e, (act limited.tree).1 = .error e → (act limited.tree).2 = limited.tree)
    (hfails : (limited.guarded path act).1 = .error e) :
    (limited.guarded path act).2 = limited := by
  unfold guarded at hfails ⊢
  split
  · rfl
  next hroom =>
    rw [if_neg hroom] at hfails
    dsimp only at hfails ⊢
    rw [hact e hfails]

instance {ω : Type} [FileTree ω] [FileTree.Atomic ω] : FileTree.Atomic (Limited ω) :=
  ⟨Limited.guarded_of_error fun _ => FileTree.Atomic.write,
    Limited.guarded_of_error fun _ => FileTree.Atomic.append⟩

variable {ω α β : Type}

namespace RunState

variable {s t u : RunState ω}

/-- Only the answers ahead and the transcript are not as they were. -/
def Untouched (s t : RunState ω) : Prop :=
  ∃ events prompter, t = { s with prompter, transcript := s.transcript ++ events }

theorem Untouched.refl : s.Untouched s := ⟨[], s.prompter, by simp⟩

theorem Untouched.trans (hfirst : s.Untouched t) (hsecond : t.Untouched u) : s.Untouched u := by
  obtain ⟨first, _, rfl⟩ := hfirst
  obtain ⟨second, prompter, rfl⟩ := hsecond
  exact ⟨first ++ second, prompter, by simp⟩

theorem QuietTo.untouched (hquiet : s.QuietTo t) : s.Untouched t := by
  obtain ⟨events, prompter, hstate, -⟩ := hquiet
  exact ⟨events, prompter, hstate⟩

end RunState

namespace Run

variable {act : Run ω α} {next : α → Run ω β} {s : RunState ω}

def FailsUntouched (act : Run ω α) (s : RunState ω) : Prop :=
  ∀ e t, outcome act s = (.error e, t) → s.Untouched t

theorem Quiet.failsUntouched (hact : Quiet act s) : FailsUntouched act s :=
  fun _ _ hout => (hact.quietTo hout).untouched

theorem failsUntouched_of_ok {a : α} {t : RunState ω} (hact : outcome act s = (.ok a, t)) :
    FailsUntouched act s := by
  intro e u hout
  rw [hact] at hout
  cases hout

theorem Quiet.bind_failsUntouched (hact : Quiet act s)
    (hnext : ∀ a t, outcome act s = (.ok a, t) → FailsUntouched (next a) t) :
    FailsUntouched (act >>= next) s := by
  intro e t hout
  rcases hfirst : outcome act s with ⟨e' | a, u⟩
  · rw [outcome_bind_error hfirst] at hout
    obtain ⟨-, rfl⟩ := Prod.mk.inj hout
    exact (hact.quietTo hfirst).untouched
  · rw [outcome_bind_ok hfirst] at hout
    exact (hact.quietTo hfirst).untouched.trans (hnext a u hfirst e t hout)

/-- What comes behind the first action does not fail. -/
theorem FailsUntouched.bind_sound (hact : FailsUntouched act s)
    (hnext : ∀ a t e, (outcome (next a) t).1 ≠ .error e) : FailsUntouched (act >>= next) s := by
  intro e t hout
  rcases hfirst : outcome act s with ⟨e' | a, u⟩
  · rw [outcome_bind_error hfirst] at hout
    obtain ⟨-, rfl⟩ := Prod.mk.inj hout
    exact hact e' u hfirst
  · rw [outcome_bind_ok hfirst] at hout
    exact absurd (congrArg Prod.fst hout) (hnext a u e)

end Run

namespace Service

variable [FileTree ω] [FileTree.Atomic ω] {s : RunState ω}

theorem failsUntouched_write (path : Path) (content : String) :
    FailsUntouched (write path content : Run ω Unit) s := by
  intro e t hout
  rw [outcome_write] at hout
  obtain ⟨hfails, rfl⟩ := Prod.mk.inj hout
  rw [FileTree.Atomic.write hfails]
  exact ⟨_, s.prompter, rfl⟩

theorem failsUntouched_append (path : Path) (content : String) :
    FailsUntouched (append path content : Run ω Unit) s := by
  intro e t hout
  rw [outcome_append] at hout
  obtain ⟨hfails, rfl⟩ := Prod.mk.inj hout
  rw [FileTree.Atomic.append hfails]
  exact ⟨_, s.prompter, rfl⟩

end Service

namespace Moment

theorem agenda_ended (r : Except RunError Unit × RunState ω) : (ended r).agenda = [] := by
  obtain ⟨_ | _, t⟩ := r <;> rfl

theorem ended_injective :
    Function.Injective (ended : Except RunError Unit × RunState ω → Moment ω) := by
  rintro ⟨e | ⟨⟩, t⟩ ⟨e' | ⟨⟩, u⟩ heq <;> simp_all [ended]

/-- Two actions that the same steps come to are the same. -/
theorem EndsAs.outcome_eq [FileTree ω] {around : Surroundings} {m : Moment ω}
    {first second : Run ω Unit} (hfirst : m.EndsAs around first)
    (hsecond : m.EndsAs around second) : outcome first m.state = outcome second m.state := by
  obtain ⟨steps, hlast⟩ := hfirst
  obtain ⟨more, hother⟩ := hsecond.after_add steps
  rw [Moment.after_add, hlast, after_of_nil (agenda_ended _)] at hother
  exact ended_injective hother

end Moment

namespace Job

section Own

variable [FileTree ω] {around : Surroundings} {frame : Frame} {s : RunState ω}

/-- What a job does without the jobs in it: it passes its gate and leads to these. -/
def own (around : Surroundings) (frame : Frame) (job : Job) : Run ω (List Errand) := do
  if ← shouldRun job.gate then Errand.runBody around frame job else return []

theorem failsUntouched_answerQuestion (id : Option String) (q : Question) :
    FailsUntouched (answerQuestion id q : Run ω Unit) s := by
  cases id with
  | none => exact (quiet_throw _).failsUntouched
  | some id =>
      rcases quiet_or_answered id q s with hquiet | ⟨-, answer, t, -, hanswered⟩
      · exact hquiet.failsUntouched
      · exact failsUntouched_of_ok hanswered

variable [FileTree.Atomic ω]

theorem failsUntouched_applyWrite (web : Web) (path : Path) (write : FileWrite) :
    FailsUntouched (applyWrite web path write : Run ω Unit) s := by
  cases write with
  | overwrite content =>
      exact (quiet_loadContent web content).bind_failsUntouched fun loaded _ _ =>
        Service.failsUntouched_write path loaded
  | append content =>
      exact (quiet_loadContent web content).bind_failsUntouched fun loaded _ _ =>
        Service.failsUntouched_append path loaded
  | replace pairs =>
      refine (Service.quiet_read path).bind_failsUntouched fun text t _ => ?_
      exact (quiet_orFault (replaceAll t.vars pairs text)).bind_failsUntouched fun replaced _ _ =>
        Service.failsUntouched_write path replaced

theorem failsUntouched_writeFile (base : Option Path) (job : FileJob) :
    FailsUntouched (writeFile around base job : Run ω Unit) s := by
  refine (Destination.quiet_resolve base job.name _).bind_failsUntouched fun destination t _ => ?_
  cases destination with
  | skip => exact (Service.quiet_report _ _).failsUntouched
  | path path =>
      refine (failsUntouched_applyWrite around.web path job.write).bind_sound fun _ u e => ?_
      simp

theorem failsUntouched_runBody (job : Job) :
    FailsUntouched (Errand.runBody around frame job : Run ω (List Errand)) s := by
  cases job with
  | group gate base jobs =>
      exact ((quiet_groupBase frame base).bind fun _ _ _ => quiet_pure _).failsUntouched
  | task gate task =>
      cases task with
      | run target =>
          refine Quiet.failsUntouched ?_
          simp only [Errand.runBody]
          split
          · exact quiet_throw _
          · exact (quiet_orFault _).bind fun _ _ _ => quiet_pure _
      | file job => exact (failsUntouched_writeFile frame.base job).bind_sound (by simp)
      | question q => exact (failsUntouched_answerQuestion gate.id q).bind_sound (by simp)
      | log level message =>
          exact (Service.quiet_report level message).failsUntouched.bind_sound (by simp)
      | registryDependencies names => exact failsUntouched_of_ok rfl
      | dependencies names => exact failsUntouched_of_ok rfl

/-- A job that fails before the jobs in it leaves all as it was. -/
theorem failsUntouched_own (job : Job) :
    FailsUntouched (own around frame job : Run ω (List Errand)) s := by
  refine (quiet_shouldRun job.gate).bind_failsUntouched fun runs t _ => ?_
  cases runs with
  | false => exact (quiet_pure _).failsUntouched
  | true => exact failsUntouched_runBody job

end Own

section Failing

variable [FileTree ω] {around : Surroundings} {frame : Frame} {gate : Gate} {e : RunError}
  {s t : RunState ω}

omit [FileTree ω] in
theorem outcome_gated_eq_error {act : Run ω Unit}
    (hout : outcome (gated gate act) s = (.error e, t)) :
    outcome (shouldRun gate) s = (.error e, t) ∨
      ∃ u, outcome (shouldRun gate) s = (.ok true, u) ∧ outcome act u = (.error e, t) := by
  rcases hgate : outcome (shouldRun gate) s with ⟨e' | runs, u⟩
  · rw [gated, outcome_bind_error hgate] at hout
    cases hout
    exact Or.inl rfl
  · rw [gated, outcome_bind_ok hgate] at hout
    cases runs with
    | false => cases hout
    | true =>
        refine Or.inr ⟨u, rfl, ?_⟩
        rcases hact : outcome act u with ⟨e' | ⟨⟩, v⟩
        · rw [if_pos rfl, outcome_bind_error hact] at hout
          exact hout
        · rw [if_pos rfl, outcome_bind_ok hact] at hout
          cases hid : gate.id <;> simp [hid] at hout

theorem own_of_gate {job : Job} (hgate : outcome (shouldRun job.gate) s = (.error e, t)) :
    outcome (own around frame job) s = (.error e, t) :=
  outcome_bind_error hgate _

theorem own_of_body {job : Job} {u : RunState ω}
    (hgate : outcome (shouldRun job.gate) s = (.ok true, u))
    (hbody : outcome (Errand.runBody around frame job) u = (.error e, t)) :
    outcome (own around frame job) s = (.error e, t) := by
  rw [own, outcome_bind_ok hgate]
  exact hbody

/-- A plain job has no jobs in it. -/
theorem own_of_plain {task : Task} (hplain : task.isPlain = true)
    (hout : outcome (run around frame (.task gate task)) s = (.error e, t)) :
    outcome (own around frame (.task gate task)) s = (.error e, t) := by
  rw [run, exec_plain around _ frame gate hplain] at hout
  rcases outcome_gated_eq_error hout with hgate | ⟨u, hgate, htask⟩
  · exact own_of_gate hgate
  · refine own_of_body hgate ?_
    rw [Errand.runBody_plain around frame gate hplain, outcome_bind_error htask]

end Failing

section Bounds

variable [FileTree ω] {around : Surroundings} {frame : Frame} {e : RunError} {s t : RunState ω}

theorem run_group (frame : Frame) (gate : Gate) (base : Option String) (jobs : List Job) :
    (run around frame (.group gate base jobs) : Run ω Unit) = gated gate (do
      let inside ← groupBase frame base
      runAll around (frame.withBase inside) jobs) := by
  rw [run, exec]
  rfl

theorem runAll_cons (frame : Frame) (job : Job) (rest : List Job) :
    (runAll around frame (job :: rest) : Run ω Unit) = (do
      run around frame job
      runAll around frame rest) := by
  rw [runAll, execAll]
  rfl

/-- A bound that covers the definitions that are not open is as good as any other. -/
theorem outcome_exec_eq_run {bound : Nat} (job : Job) (hbound : frame.unopened ≤ bound)
    (s : RunState ω) :
    outcome (exec around (invoke around bound) frame job) s = outcome (run around frame job) s :=
  (unfolds_exec around bound frame job hbound s).endsAs.outcome_eq
    (unfolds_run around frame job s).endsAs

/-- A definition fails because it cannot be entered, or by its job. -/
theorem outcome_invoke_eq_error {bound : Nat} {target : String} (gate : Gate)
    (hbound : frame.unopened ≤ bound)
    (hout : outcome (invoke around bound frame target) s = (.error e, t)) :
    outcome (Errand.runBody around frame (.task gate (.run target))) s = (.error e, t) ∨
      ∃ job inner, frame.definitions.find? target = some job ∧
        frame.enter target = .ok inner ∧ outcome (run around inner job) s = (.error e, t) := by
  rw [invoke.eq_def] at hout
  dsimp only at hout
  simp only [Errand.runBody]
  rcases hfind : frame.definitions.find? target with _ | job
  · refine Or.inl ?_
    simpa [hfind] using hout
  · rcases henter : frame.enter target with fault | inner
    · refine Or.inl ?_
      simpa [hfind, henter, orFault] using hout
    · refine Or.inr ⟨job, inner, rfl, rfl, ?_⟩
      have hfewer := Frame.unopened_enter_lt hfind henter
      obtain ⟨below, rfl⟩ : ∃ below, bound = below + 1 := ⟨bound - 1, by omega⟩
      rw [← outcome_exec_eq_run job (by omega : inner.unopened ≤ below)]
      simpa [hfind, henter, orFault] using hout

end Bounds

/-- How a job fails: alone, or by a job in it behind such as have ended well.  These are listed with
their frames, from all levels and in order; the jobs that have begun and do not end are listed from
the outside in. -/
inductive Halts [FileTree ω] (around : Surroundings) (e : RunError) : Frame → Job → RunState ω →
    List (Frame × Job) → List Job → RunState ω → Prop where
  | alone {frame : Frame} {job : Job} {s t : RunState ω}
      (hown : outcome (own around frame job) s = (.error e, t)) :
      Halts around e frame job s [] [job] t
  | group {frame : Frame} {gate : Gate} {base : Option String} {inside : Option Path}
      {front back : List Job} {job : Job} {done : List (Frame × Job)} {unfinished : List Job}
      {s t u v w : RunState ω} (hgate : outcome (shouldRun gate) s = (.ok true, u))
      (hbase : outcome (groupBase frame base) u = (.ok inside, v))
      (hfront : outcome (runAll around (frame.withBase inside) front) v = (.ok (), w))
      (hjob : Halts around e (frame.withBase inside) job w done unfinished t) :
      Halts around e frame (.group gate base (front ++ job :: back)) s
        (front.map (Prod.mk (frame.withBase inside)) ++ done)
        (.group gate base (front ++ job :: back) :: unfinished) t
  | run {frame inner : Frame} {gate : Gate} {target : String} {job : Job}
      {done : List (Frame × Job)} {unfinished : List Job} {s t u : RunState ω}
      (hgate : outcome (shouldRun gate) s = (.ok true, u))
      (hfind : frame.definitions.find? target = some job)
      (henter : frame.enter target = .ok inner)
      (hjob : Halts around e inner job u done unfinished t) :
      Halts around e frame (.task gate (.run target)) s done
        (.task gate (.run target) :: unfinished) t

section Decomposition

variable [FileTree ω] {around : Surroundings} {frame : Frame} {e : RunError} {s t : RunState ω}

theorem exists_failing {jobs : List Job}
    (hout : outcome (runAll around frame jobs) s = (.error e, t)) :
    ∃ front job back u, jobs = front ++ job :: back ∧
      outcome (runAll around frame front) s = (.ok (), u) ∧
      outcome (run around frame job) u = (.error e, t) := by
  induction jobs generalizing s with
  | nil => cases hout
  | cons first rest ih =>
      rw [runAll_cons] at hout
      rcases hfirst : outcome (run around frame first) s with ⟨e' | ⟨⟩, u⟩
      · rw [outcome_bind_error hfirst] at hout
        exact ⟨[], first, rest, s, rfl, rfl, hfirst.trans hout⟩
      · rw [outcome_bind_ok hfirst] at hout
        obtain ⟨front, job, back, v, rfl, hfront, hjob⟩ := ih hout
        refine ⟨first :: front, job, back, v, rfl, ?_, hjob⟩
        rw [runAll_cons, outcome_bind_ok hfirst]
        exact hfront

/-- Every job that fails halts in one of these ways. -/
theorem exists_halts (frame : Frame) (job : Job) (s : RunState ω)
    (hout : outcome (run around frame job) s = (.error e, t)) :
    ∃ done unfinished, Halts around e frame job s done unfinished t := by
  match job with
  | .group gate base jobs =>
      rw [run_group] at hout
      rcases outcome_gated_eq_error hout with hgate | ⟨u, hgate, hbody⟩
      · exact ⟨[], _, .alone (own_of_gate hgate)⟩
      · rcases hbase : outcome (groupBase frame base) u with ⟨e' | inside, v⟩
        · rw [outcome_bind_error hbase] at hbody
          cases hbody
          exact ⟨[], _, .alone (own_of_body hgate (outcome_bind_error hbase _))⟩
        · rw [outcome_bind_ok hbase] at hbody
          obtain ⟨front, inner, back, w, rfl, hfront, hinner⟩ := exists_failing hbody
          have hsize : sizeOf inner < sizeOf (front ++ inner :: back) :=
            List.sizeOf_lt_of_mem (by simp)
          obtain ⟨done, unfinished, hhalts⟩ :=
            exists_halts (frame.withBase inside) inner w hinner
          exact ⟨_, _, .group hgate hbase hfront hhalts⟩
  | .task gate (.run target) =>
      rw [run, exec] at hout
      rcases outcome_gated_eq_error hout with hgate | ⟨u, hgate, hbody⟩
      · exact ⟨[], _, .alone (own_of_gate hgate)⟩
      · rcases outcome_invoke_eq_error gate frame.unopened_le_length hbody with
          hbody | ⟨job, inner, hfind, henter, hjob⟩
        · exact ⟨[], _, .alone (own_of_body hgate hbody)⟩
        · -- The job may be of any size, but fewer definitions are left to be entered.
          have hfewer := Frame.unopened_enter_lt hfind henter
          obtain ⟨done, unfinished, hhalts⟩ := exists_halts inner job u hjob
          exact ⟨done, _, .run hgate hfind henter hhalts⟩
  | .task gate (.file file) => exact ⟨[], _, .alone (own_of_plain rfl hout)⟩
  | .task gate (.question q) => exact ⟨[], _, .alone (own_of_plain rfl hout)⟩
  | .task gate (.registryDependencies names) => exact ⟨[], _, .alone (own_of_plain rfl hout)⟩
  | .task gate (.dependencies names) => exact ⟨[], _, .alone (own_of_plain rfl hout)⟩
  | .task gate (.log level message) => exact ⟨[], _, .alone (own_of_plain rfl hout)⟩
termination_by (frame.unopened, sizeOf job)

end Decomposition

/-- The jobs end well one after the other, each in its frame; between them only calls are made. -/
inductive Produces [FileTree ω] (around : Surroundings) :
    List (Frame × Job) → RunState ω → RunState ω → Prop where
  | nil {s t : RunState ω} (hcalls : s.Untouched t) : Produces around [] s t
  | cons {frame : Frame} {job : Job} {rest : List (Frame × Job)} {s t u v : RunState ω}
      (hcalls : s.Untouched u) (hjob : outcome (run around frame job) u = (.ok (), v))
      (hrest : Produces around rest v t) : Produces around ((frame, job) :: rest) s t

section Produced

variable [FileTree ω] {around : Surroundings} {frame : Frame} {job : Job} {e : RunError}
  {front back done : List (Frame × Job)} {unfinished : List Job} {s t u : RunState ω}

theorem Produces.of_untouched (hcalls : s.Untouched t) (hdone : Produces around done t u) :
    Produces around done s u := by
  cases hdone with
  | nil hlater => exact .nil (hcalls.trans hlater)
  | cons hlater hjob hrest => exact .cons (hcalls.trans hlater) hjob hrest

theorem Produces.append (hfront : Produces around front s t) (hback : Produces around back t u) :
    Produces around (front ++ back) s u := by
  induction hfront with
  | nil hcalls => exact hback.of_untouched hcalls
  | cons hcalls hjob _ ih => exact .cons hcalls hjob (ih hback)

theorem produces_of_runAll {jobs : List Job}
    (hout : outcome (runAll around frame jobs) s = (.ok (), t)) :
    Produces around (jobs.map (Prod.mk frame)) s t := by
  induction jobs generalizing s with
  | nil =>
      cases hout
      exact .nil .refl
  | cons job rest ih =>
      rw [runAll_cons] at hout
      obtain ⟨_, u, hjob, hrest⟩ := outcome_bind_eq_ok_iff.mp hout
      exact .cons .refl hjob (ih hrest)

/-- A group that has begun has produced what its first jobs have. -/
theorem produces_of_begun {gate : Gate} {base : Option String} {inside : Option Path}
    {jobs : List Job} {v w : RunState ω} (hgate : outcome (shouldRun gate) s = (.ok true, u))
    (hbase : outcome (groupBase frame base) u = (.ok inside, v))
    (hjobs : outcome (runAll around (frame.withBase inside) jobs) v = (.ok (), w)) :
    Produces around (jobs.map (Prod.mk (frame.withBase inside))) s w := by
  have hopen := ((quiet_shouldRun _).quietTo hgate).untouched
  have hinside := ((quiet_groupBase _ _).quietTo hbase).untouched
  exact (produces_of_runAll hjobs).of_untouched (hopen.trans hinside)

/-- What a failed job leaves is what the jobs in it that had ended well have produced. -/
theorem Halts.produces [FileTree.Atomic ω] (hhalts : Halts around e frame job s done unfinished t) :
    Produces around done s t := by
  induction hhalts with
  | alone hown => exact .nil (failsUntouched_own _ _ _ hown)
  | group hgate hbase hfront _ ih => exact (produces_of_begun hgate hbase hfront).append ih
  | run hgate _ _ _ ih => exact ih.of_untouched ((quiet_shouldRun _).quietTo hgate).untouched

/-- One of the jobs has brought about what did not hold before it. -/
def BroughtAbout (around : Surroundings) (P : RunState ω → Prop) (done : List (Frame × Job))
    (s t : RunState ω) : Prop :=
  ∃ front frame job back u v, done = front ++ (frame, job) :: back ∧
    Produces around front s u ∧ outcome (run around frame job) u = (.ok (), v) ∧
    Produces around back v t ∧ ¬P u ∧ P v

theorem Produces.broughtAbout {P : RunState ω → Prop} (hcalls : ∀ u v, u.Untouched v → P v → P u)
    (hdone : Produces around done s t) (hbefore : ¬P s) (hafter : P t) :
    BroughtAbout around P done s t := by
  induction hdone with
  | nil huntouched => exact absurd (hcalls _ _ huntouched hafter) hbefore
  | @cons frame job rest s t u v huntouched hjob hrest ih =>
      have hstart : ¬P u := fun hu => hbefore (hcalls _ _ huntouched hu)
      by_cases hends : P v
      · exact ⟨[], frame, job, rest, u, v, rfl, .nil huntouched, hjob, hrest, hstart, hends⟩
      · obtain ⟨front, frame', job', back, u', v', rfl, hfront, hlater⟩ := ih hends hafter
        exact ⟨(frame, job) :: front, frame', job', back, u', v', rfl,
          .cons huntouched hjob hfront, hlater⟩

theorem completed_subset_of_run {r : Except RunError Unit}
    (hout : outcome (run around frame job) s = (r, t)) : s.completed ⊆ t.completed := by
  have honward := Onward.of_endsAs (unfolds_run around frame job s).endsAs
  rw [hout] at honward
  exact honward.completed_subset

theorem Produces.completed_subset (hdone : Produces around done s t) :
    s.completed ⊆ t.completed := by
  induction hdone with
  | nil hcalls =>
      obtain ⟨events, prompter, rfl⟩ := hcalls
      exact List.Subset.refl _
  | cons hcalls hjob _ ih =>
      have hends := completed_subset_of_run hjob
      obtain ⟨events, prompter, rfl⟩ := hcalls
      exact List.Subset.trans hends ih

omit [FileTree ω] in
theorem notMem_completed_of_open {gate : Gate} {id : String} (hid : gate.id = some id)
    (hgate : outcome (shouldRun gate) s = (.ok true, t)) : id ∉ s.completed := by
  intro hdone
  rw [outcome_shouldRun_of_completed hid hdone] at hgate
  cases hgate

/-- No job begins whose id is done. -/
theorem Halts.notMem_completed [FileTree.Atomic ω]
    (hhalts : Halts around e frame job s done unfinished t) {other : Job}
    (hother : other ∈ unfinished) {id : String} (hid : other.gate.id = some id) :
    id ∉ s.completed := by
  induction hhalts with
  | alone hown =>
      obtain rfl := List.mem_singleton.mp hother
      intro hdone
      rw [own, outcome_bind_ok (outcome_shouldRun_of_completed hid hdone)] at hown
      cases hown
  | group hgate hbase hfront hjob ih =>
      rcases List.mem_cons.mp hother with rfl | hinner
      · exact notMem_completed_of_open hid hgate
      · have hbefore := produces_of_begun hgate hbase hfront
        exact fun hdone => ih hinner (hbefore.completed_subset hdone)
  | run hgate hfind henter hjob ih =>
      rcases List.mem_cons.mp hother with rfl | hinner
      · exact notMem_completed_of_open hid hgate
      · have hopen := (quiet_shouldRun _).quietTo hgate
        exact fun hdone => ih hinner (hopen.completed ▸ hdone)

end Produced

/-- Failed jobs leave no trace of themselves.  A plain job that fails leaves all but the answers and
the transcript as it was.  When a list of jobs fails, the jobs before the failing one and those that
had ended well within it produce all that is left; whatever has begun and not ended was not done
before, and where its id is done or has a value in the end, one of these jobs has brought that
about. -/
theorem failure_leaves_no_trace [FileTree ω] [FileTree.Atomic ω] (around : Surroundings) :
    (∀ (frame : Frame) (gate : Gate) (task : Task) (s t : RunState ω) (e : RunError),
      task.isPlain = true → outcome (run around frame (.task gate task)) s = (.error e, t) →
        s.Untouched t) ∧
    ∀ (frame : Frame) (jobs : List Job) (s t : RunState ω) (e : RunError),
      outcome (runAll around frame jobs) s = (.error e, t) →
        ∃ front job back u done unfinished, jobs = front ++ job :: back ∧
          outcome (runAll around frame front) s = (.ok (), u) ∧
          Halts around e frame job u done unfinished t ∧
          Produces around (front.map (Prod.mk frame) ++ done) s t ∧
          ∀ other ∈ unfinished, ∀ id, other.gate.id = some id →
            id ∉ s.completed ∧
            (id ∈ t.completed → BroughtAbout around (fun v => id ∈ v.completed) done u t) ∧
            (¬u.vars.HasId id → t.vars.HasId id →
              BroughtAbout around (fun v => v.vars.HasId id) done u t) := by
  constructor
  · intro frame gate task s t e hplain hout
    exact failsUntouched_own _ e t (own_of_plain hplain hout)
  · intro frame jobs s t e hout
    obtain ⟨front, job, back, u, hjobs, hfront, hjob⟩ := exists_failing hout
    obtain ⟨done, unfinished, hhalts⟩ := exists_halts frame job u hjob
    have hbefore := produces_of_runAll hfront
    refine ⟨front, job, back, u, done, unfinished, hjobs, hfront, hhalts,
      hbefore.append hhalts.produces, fun other hother id hid => ?_⟩
    have hnew := hhalts.notMem_completed hother hid
    refine ⟨fun hdone => hnew (hbefore.completed_subset hdone), ?_, ?_⟩
    · refine hhalts.produces.broughtAbout (P := fun v => id ∈ v.completed) ?_ hnew
      rintro v w ⟨events, prompter, rfl⟩ hdone
      exact hdone
    · refine hhalts.produces.broughtAbout (P := fun v => v.vars.HasId id) ?_
      rintro v w ⟨events, prompter, rfl⟩ hvalue
      exact hvalue

/-- The second pattern is none. -/
def editing : Job :=
  .task ⟨some "edit", none, none⟩ (.file ⟨"notes.txt", .replace [("o", "0"), ("(", "1")]⟩)

def packing : List Job :=
  [ .task ⟨some "hello", none, none⟩ (.log .info "hello"),
    .group ⟨some "pack", none, none⟩ none
      [ .task ⟨some "list", none, none⟩ (.dependencies ["left-pad"]), editing ] ]

def beforePacking : RunState (Limited MemoryFiles) :=
  .start (.withStore .empty) ⟨⟨[([.name "notes.txt"], "old")], []⟩, []⟩ (.script [])

theorem failure_leaves_no_trace_packing :
    (∃ e t, outcome (run ⟨⟨[]⟩, false⟩ (Frame.root none []) editing) beforePacking =
        (.error e, t) ∧ beforePacking.Untouched t) ∧
      ∃ e t done, outcome (runAll ⟨⟨[]⟩, false⟩ (Frame.root none []) packing) beforePacking =
          (.error e, t) ∧ Produces ⟨⟨[]⟩, false⟩ done beforePacking t ∧
        t.completed = ["hello", "list"] := by
  have hedit : (outcome (run ⟨⟨[]⟩, false⟩ (Frame.root none []) editing)
      beforePacking).1.toOption = none := by decide +kernel
  have hpack : (outcome (runAll ⟨⟨[]⟩, false⟩ (Frame.root none []) packing)
      beforePacking).1.toOption = none := by decide +kernel
  have hcompleted : (outcome (runAll ⟨⟨[]⟩, false⟩ (Frame.root none []) packing)
      beforePacking).2.completed = ["hello", "list"] := by decide +kernel
  have htrace := failure_leaves_no_trace (ω := Limited MemoryFiles) ⟨⟨[]⟩, false⟩
  constructor
  · rcases hout : outcome (run ⟨⟨[]⟩, false⟩ (Frame.root none []) editing) beforePacking with
      ⟨e | ⟨⟩, t⟩
    · exact ⟨e, t, rfl, htrace.1 _ _ _ _ t e rfl hout⟩
    · rw [hout] at hedit
      cases hedit
  · rcases hout : outcome (runAll ⟨⟨[]⟩, false⟩ (Frame.root none []) packing) beforePacking with
      ⟨e | ⟨⟩, t⟩
    · obtain ⟨front, job, back, u, done, unfinished, -, -, -, hdone, -⟩ := htrace.2 _ _ _ t e hout
      exact ⟨e, t, _, rfl, hdone, by rw [hout] at hcompleted; exact hcompleted⟩
    · rw [hout] at hpack
      cases hpack

end Job
end Scaffold
