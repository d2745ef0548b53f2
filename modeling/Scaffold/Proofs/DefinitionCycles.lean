import Scaffold.Proofs.CheckedDocuments
import Scaffold.Proofs.FailedJobs

/-!
# Cycles of definitions

A run that is refused a definition has come to it along the call graph, from the jobs of the document
through definitions that are all still open, and one of these is the definition itself.  The chain in
the error is this route.  Jobs that have ended leave nothing on it.
-/

namespace Scaffold

open Run

variable {ω α β : Type}

namespace Definitions

variable {definitions : Definitions} {sources names : List String} {target callee : String}

/-- The names follow one another along the call graph, from one of the sources on. -/
structure Route (definitions : Definitions) (sources names : List String) : Prop where
  start : ∀ first ∈ names.head?, first ∈ sources
  calls : names.IsChain definitions.Calls

theorem Route.concat (hroute : definitions.Route sources (names ++ [target]))
    (hcalls : definitions.Calls target callee) :
    definitions.Route sources (names ++ [target] ++ [callee]) := by
  constructor
  · intro first hfirst
    apply hroute.start first
    rw [List.head?_append_of_ne_nil _ (by simp)] at hfirst
    exact hfirst
  · apply hroute.calls.append (List.isChain_singleton callee)
    intro last hlast next hnext
    obtain rfl : target = last := by simpa using hlast
    obtain rfl : callee = next := by simpa using hnext
    exact hcalls

/-- A route that comes to a name for the second time has led from the name to itself. -/
theorem transGen_of_route (hroute : definitions.Route sources (names ++ [target]))
    (hopen : target ∈ names) : Relation.TransGen definitions.Calls target target := by
  have hreach : (names ++ [target]).IsChain (Relation.TransGen definitions.Calls) :=
    hroute.calls.imp fun _ _ hcalls => Relation.TransGen.single hcalls
  rw [List.isChain_iff_pairwise, List.pairwise_append] at hreach
  exact hreach.2.2 target hopen target (List.mem_singleton_self target)

end Definitions

theorem Frame.enter_eq_error_iff {frame : Frame} {target : String} {fault : DocumentError} :
    frame.enter target = .error fault ↔
      target ∈ frame.chain ∧ fault = .definitionCycle (frame.chain ++ [target]) := by
  unfold Frame.enter
  by_cases hopen : target ∈ frame.chain
  · simp [hopen, eq_comm]
  · simp [hopen]

/-! ### Errors of another kind -/

def RunError.IsNoCycle (e : RunError) : Prop := ∀ chain, e ≠ .document (.definitionCycle chain)

theorem Ports.mono [FileTree ω] {web : Web} {allowed other : RunError → Prop}
    (hports : Ports web ω allowed) (hother : ∀ e, allowed e → other e) : Ports web ω other := by
  constructor
  · exact fun files path e herror => hother e (hports.read files path e herror)
  · exact fun files path content e herror => hother e (hports.write files path content e herror)
  · exact fun files path content e herror => hother e (hports.append files path content e herror)
  · exact fun url e herror => hother e (hports.fetch url e herror)
  · exact hother _ hports.cancelled
  · exact hother _ hports.noTerminal

namespace Run

variable {allowed : RunError → Prop} {act : Run ω α} {next : α → Run ω β} {s : RunState ω}

/-- If the action fails, then with an error that is allowed. -/
def FailsWithin (allowed : RunError → Prop) (act : Run ω α) (s : RunState ω) : Prop :=
  ∀ e t, outcome act s = (.error e, t) → allowed e

theorem FailsByCall.failsWithin (hfails : FailsByCall allowed act s) :
    FailsWithin allowed act s := by
  intro e t hout
  obtain ⟨events, -, hexplained⟩ := hfails
  rw [hout] at hexplained
  exact hexplained.1

theorem FailsWithin.bind (hact : FailsWithin allowed act s)
    (hnext : ∀ a t, FailsWithin allowed (next a) t) : FailsWithin allowed (act >>= next) s := by
  intro e t hout
  rcases hfirst : outcome act s with ⟨e' | a, u⟩
  · rw [outcome_bind_error hfirst] at hout
    obtain ⟨rfl, rfl⟩ : e' = e ∧ u = t := by simpa using hout
    exact hact e' u hfirst
  · rw [outcome_bind_ok hfirst] at hout
    exact hnext a u e t hout

theorem FailsWithin.get_bind {next : RunState ω → Run ω β}
    (hnext : FailsWithin allowed (next s) s) : FailsWithin allowed (get >>= next) s := hnext

theorem failsWithin_orFault {r : Except DocumentError α}
    (hfault : ∀ fault, r = .error fault → allowed (.document fault)) :
    FailsWithin allowed (orFault r : Run ω α) s := by
  intro e t hout
  rw [outcome_orFault] at hout
  cases r with
  | ok a => cases hout
  | error fault =>
      cases hout
      exact hfault fault rfl

end Run

theorem Guard.isNoCycle_of_evaluate {expression : String} {vars : Variables}
    {fault : DocumentError} (hguard : evaluate expression vars = .error fault) :
    (RunError.document fault).IsNoCycle := by
  unfold evaluate conditionOf at hguard
  rcases hparse : parse expression with reason | condition
  · rw [hparse] at hguard
    cases hguard
    simp [RunError.IsNoCycle]
  · rw [hparse] at hguard
    cases hguard

namespace Job

theorem isNoCycle_of_replaceAll {vars : Variables} {pairs : List (String × String)}
    {text : String} {fault : DocumentError} (hpairs : replaceAll vars pairs text = .error fault) :
    (RunError.document fault).IsNoCycle := by
  induction pairs generalizing text with
  | nil => cases hpairs
  | cons pair rest ih =>
      obtain ⟨pattern, replacement⟩ := pair
      rw [replaceAll] at hpairs
      split at hpairs
      next reason hcompile =>
        cases hpairs
        simp [RunError.IsNoCycle]
      next p hcompile => exact ih hpairs

variable [FileTree ω] {around : Surroundings} {s t : RunState ω} {frame : Frame}

theorem failsWithin_shouldRun {web : Web} (hports : Ports web ω RunError.IsNoCycle) (gate : Gate) :
    FailsWithin RunError.IsNoCycle (shouldRun gate : Run ω Bool) s := by
  have hopen (t : RunState ω) : FailsWithin RunError.IsNoCycle (isOpen gate.when) t := by
    cases gate.when with
    | none => exact (failsByCall_pure true).failsWithin
    | some expression =>
        apply FailsWithin.get_bind
        exact failsWithin_orFault fun fault => Guard.isNoCycle_of_evaluate
  apply FailsWithin.get_bind
  split
  · exact (failsByCall_pure false).failsWithin
  · apply (hopen s).bind
    intro holds t
    split
    · exact (failsByCall_pure false).failsWithin
    · exact (asks_isConfirmed hports gate.confirm).fails.failsWithin

theorem failsWithin_replace (hports : Ports around.web ω RunError.IsNoCycle)
    (base : Option Path) (name : String) (pairs : List (String × String)) :
    FailsWithin RunError.IsNoCycle
      (writeFile around base ⟨name, .replace pairs⟩ : Run ω Unit) s := by
  have hwritten (path : Path) (t : RunState ω) :
      FailsWithin RunError.IsNoCycle (applyWrite around.web path (.replace pairs)) t := by
    apply FailsWithin.bind (Service.asks_read hports path).fails.failsWithin
    intro text u
    apply FailsWithin.get_bind
    apply FailsWithin.bind (failsWithin_orFault fun fault => isNoCycle_of_replaceAll)
    exact fun replaced v => (Service.failsByCall_write hports path replaced).failsWithin
  apply FailsWithin.bind (Destination.asks_resolve hports _ _ _).fails.failsWithin
  intro destination t
  cases destination with
  | skip => exact (Service.asks_report _ _).fails.failsWithin
  | path path =>
      apply (hwritten path t).bind
      exact fun _ u => (Service.asks_report _ _).fails.failsWithin

theorem failsWithin_plain (hports : Ports around.web ω RunError.IsNoCycle) (frame : Frame)
    (gate : Gate) {task : Task} (hplain : task.isPlain = true)
    (invoke : Frame → String → Run ω Unit) :
    FailsWithin RunError.IsNoCycle (runTask around invoke frame gate.id task) s := by
  by_cases hchecked : task.Compiles ∧ task.Named gate
  · exact (failsByCall_plain hports frame gate hplain hchecked.1 hchecked.2 invoke).failsWithin
  · cases task with
    | run target => cases hplain
    | file job =>
        obtain ⟨name, write⟩ := job
        cases write with
        | replace pairs => exact failsWithin_replace hports frame.base name pairs
        | _ => exact absurd ⟨trivial, trivial⟩ hchecked
    | question q =>
        rcases hid : gate.id with _ | id
        · intro e t hout
          cases hout
          simp [RunError.IsNoCycle]
        · exact absurd ⟨trivial, id, hid⟩ hchecked
    | _ => exact absurd ⟨trivial, trivial⟩ hchecked

theorem failsWithin_runBody (hports : Ports around.web ω RunError.IsNoCycle) {job : Job}
    (hother : ∀ gate target, job ≠ .task gate (.run target)) :
    FailsWithin RunError.IsNoCycle (Errand.runBody around frame job : Run ω (List Errand)) s := by
  cases job with
  | group gate base jobs =>
      apply FailsWithin.bind (asks_groupBase hports frame base).fails.failsWithin
      exact fun inside t => (failsByCall_pure _).failsWithin
  | task gate task =>
      by_cases hplain : task.isPlain = true
      · rw [Errand.runBody_plain around frame gate hplain]
        apply (failsWithin_plain hports frame gate hplain _).bind
        exact fun _ t => (failsByCall_pure _).failsWithin
      · cases task with
        | run target => exact absurd rfl (hother gate target)
        | _ => exact absurd rfl hplain

/-- Only a job that runs a definition ends in a cycle by itself, and the definition is open then. -/
theorem exists_refused (hports : Ports around.web ω RunError.IsNoCycle) {job : Job}
    {chain : List String}
    (hown : outcome (own around frame job) s = (.error (.document (.definitionCycle chain)), t)) :
    ∃ gate target, job = .task gate (.run target) ∧ target ∈ frame.chain ∧
      chain = frame.chain ++ [target] := by
  rcases hgate : outcome (shouldRun job.gate) s with ⟨e | runs, u⟩
  · rw [own_of_gate hgate] at hown
    cases hown
    exact absurd rfl (failsWithin_shouldRun hports job.gate _ _ hgate chain)
  · rw [own, outcome_bind_ok hgate] at hown
    cases runs with
    | false => cases hown
    | true =>
        by_cases hrun : ∃ gate target, job = .task gate (.run target)
        · obtain ⟨gate, target, rfl⟩ := hrun
          have hbody : outcome (Errand.runBody around frame (.task gate (.run target))) u =
              (.error (.document (.definitionCycle chain)), t) := hown
          simp only [Errand.runBody] at hbody
          rcases hfind : frame.definitions.find? target with _ | definition
          · simp [hfind] at hbody
          · rcases henter : frame.enter target with fault | inner
            · obtain ⟨hopen, rfl⟩ := Frame.enter_eq_error_iff.mp henter
              obtain ⟨rfl, -⟩ : frame.chain ++ [target] = chain ∧ u = t := by
                simpa [hfind, henter, orFault] using hbody
              exact ⟨gate, target, rfl, hopen, rfl⟩
            · simp [hfind, henter, orFault] at hbody
        · have hother : ∀ gate target, job ≠ .task gate (.run target) :=
            fun gate target heq => hrun ⟨gate, target, heq⟩
          exact absurd rfl (failsWithin_runBody hports hother _ _ hown chain)

/-! ### The route to a cycle -/

/-- The definition that the job runs, if it is a job of this kind. -/
def target? : Job → Option String
  | .task _ (.run target) => some target
  | _ => none

variable {job : Job} {done : List (Frame × Job)} {unfinished : List Job}
  {sources chain : List String}

/-- The chain in the error is that of the frame with the definitions that the open jobs run. -/
theorem Halts.chain_eq (hports : Ports around.web ω RunError.IsNoCycle)
    (hhalts : Halts around (.document (.definitionCycle chain)) frame job s done unfinished t) :
    chain = frame.chain ++ unfinished.filterMap target? := by
  induction hhalts with
  | alone hown =>
      obtain ⟨gate, target, rfl, -, hchain⟩ := exists_refused hports hown
      exact hchain
  | group _ _ _ _ ih => exact ih
  | run _ _ henter _ ih =>
      obtain ⟨-, rfl⟩ := Frame.enter_eq_ok_iff.mp henter
      rw [ih]
      simp [target?]

/-- The route to the targets of the job leads on to the cycle. -/
theorem Halts.closes (hports : Ports around.web ω RunError.IsNoCycle)
    (hhalts : Halts around (.document (.definitionCycle chain)) frame job s done unfinished t)
    (hsound : frame.Sound)
    (hroute : ∀ target ∈ job.targets, frame.definitions.Route sources (frame.chain ++ [target])) :
    ∃ names target, chain = names ++ [target] ∧ names.Nodup ∧ target ∈ names ∧
      (∀ name ∈ names, frame.definitions.Declares name) ∧
      frame.definitions.Route sources (names ++ [target]) := by
  -- From the outside in: a group keeps the chain of its frame, a run makes it longer by its target.
  induction hhalts with
  | @alone frame job s t hown =>
      obtain ⟨gate, target, rfl, hopen, hchain⟩ := exists_refused hports hown
      have hstep := hroute target (List.mem_singleton_self target)
      exact ⟨frame.chain, target, hchain, hsound.nodup, hopen, hsound.declared, hstep⟩
  | @group frame gate base inside front back job done unfinished s t u v w _ _ _ _ ih =>
      apply ih (hsound.withBase inside)
      intro target htarget
      apply hroute target
      exact targets_subset_allTargets (by simp) htarget
  | @run frame inner gate target job done unfinished s t u _ hfind henter _ ih =>
      have hinner := hsound.enter hfind henter
      obtain ⟨-, rfl⟩ := Frame.enter_eq_ok_iff.mp henter
      apply ih hinner
      intro callee hcallee
      have hstep := hroute target (List.mem_singleton_self target)
      exact hstep.concat ⟨job, hfind, hcallee⟩

end Job

/-- An error about a cycle tells of one.  Its chain leads from the jobs of the document along the call
graph, through distinct definitions, to one that has been passed: this definition reaches itself.
The jobs that have not ended run just the definitions of the chain, in this order, and the job among
those of the document that has failed comes behind others that have ended well. -/
theorem Document.cycles_are_genuine [FileTree ω] (around : Surroundings)
    (hports : Ports around.web ω RunError.IsNoCycle) (d : Document) (base : Option Path)
    {s t : RunState ω} {chain : List String}
    (hfails : outcome (Job.runAll around (Frame.root base d.definitions) d.jobs) s =
      (.error (.document (.definitionCycle chain)), t)) :
    (∃ names target, chain = names ++ [target] ∧ names.Nodup ∧ target ∈ names ∧
      (∀ name ∈ names, d.definitions.Declares name) ∧
      (∀ first ∈ names.head?, first ∈ Job.allTargets d.jobs) ∧
      chain.IsChain d.definitions.Calls ∧
      Relation.TransGen d.definitions.Calls target target) ∧
    ∃ front job back u done unfinished, d.jobs = front ++ job :: back ∧
      outcome (Job.runAll around (Frame.root base d.definitions) front) s = (.ok (), u) ∧
      Job.Halts around (.document (.definitionCycle chain)) (Frame.root base d.definitions) job u
        done unfinished t ∧
      chain = unfinished.filterMap Job.target? := by
  obtain ⟨front, job, back, u, hjobs, hfront, hjob⟩ := Job.exists_failing hfails
  obtain ⟨done, unfinished, hhalts⟩ := Job.exists_halts _ _ _ hjob
  constructor
  · have hstart : ∀ target ∈ job.targets, d.definitions.Route (Job.allTargets d.jobs) [target] := by
      intro target htarget
      refine ⟨?_, List.isChain_singleton target⟩
      have hmem : job ∈ d.jobs := by simp [hjobs]
      simpa using Job.targets_subset_allTargets hmem htarget
    obtain ⟨names, target, rfl, hnodup, hopen, hdeclared, hroute⟩ :=
      hhalts.closes hports (Frame.root_sound base d.definitions) hstart
    refine ⟨names, target, rfl, hnodup, hopen, hdeclared, ?_, hroute.calls,
      Definitions.transGen_of_route hroute hopen⟩
    intro first hfirst
    apply hroute.start first
    rw [List.head?_append_of_ne_nil _ (List.ne_nil_of_mem hopen)]
    exact hfirst
  · exact ⟨front, job, back, u, done, unfinished, hjobs, hfront, hhalts, hhalts.chain_eq hports⟩

/-- Two jobs that tidy up, and a definition that is run within itself. -/
def Document.laps : Document where
  name := none
  title := none
  version := none
  description := none
  jobs :=
    [ .task ⟨none, none, none⟩ (.run "tidy"), .task ⟨none, none, none⟩ (.run "tidy"),
      .group ⟨none, none, none⟩ none [.task ⟨none, none, none⟩ (.run "first")] ]
  dependencies := []
  registryDependencies := []
  definitions :=
    [ ("tidy", .task ⟨none, none, none⟩ (.log .info "tidy")),
      ("first", .task ⟨none, none, none⟩ (.run "second")),
      ("second", .group ⟨none, none, none⟩ none [.task ⟨none, none, none⟩ (.run "first")]) ]

theorem Document.cycles_are_genuine_laps :
    Ports ⟨[]⟩ MemoryFiles RunError.IsNoCycle ∧
      ∃ t, outcome (Job.runAll ⟨⟨[]⟩, false⟩ (Frame.root none laps.definitions) laps.jobs)
          pageStart = (.error (.document (.definitionCycle ["first", "second", "first"])), t) ∧
        Relation.TransGen laps.definitions.Calls "first" "first" := by
  have hports : Ports ⟨[]⟩ MemoryFiles RunError.IsNoCycle :=
    ports_memory.mono fun e hservice chain => hservice (.definitionCycle chain)
  have hfails : (outcome (Job.runAll ⟨⟨[]⟩, false⟩ (Frame.root none laps.definitions) laps.jobs)
      pageStart).1 = .error (.document (.definitionCycle ["first", "second", "first"])) := by
    decide +kernel
  obtain ⟨⟨names, target, hchain, -, -, -, -, -, hreach⟩, -⟩ :=
    cycles_are_genuine ⟨⟨[]⟩, false⟩ hports laps none (Prod.ext hfails rfl)
  obtain rfl : "first" = target := by simpa using congrArg List.getLast? hchain
  exact ⟨hports, _, Prod.ext hfails rfl, hreach⟩

end Scaffold
