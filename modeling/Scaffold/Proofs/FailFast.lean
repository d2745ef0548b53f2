import Scaffold.Proofs.CheckedDocuments
import Scaffold.Proofs.JobErrands
import Scaffold.Proofs.SessionSteps
import Scaffold.Run.Workspace

/-!
# Runs stop at the first error

A run fails for one of two reasons.  Either a call fails: it is the last call, and its error is the
result.  Or an errand finds a fault after calls that have gone well: then the run is over in the
state in which the fault is found, so that nothing is called any more.
-/

namespace Scaffold

open Run

variable {ω α β : Type}

namespace RunState

/-- All calls on the way from the one state to the other succeed. -/
def GoesWell (s t : RunState ω) : Prop :=
  ∃ events, t.transcript = s.transcript ++ events ∧ ∀ event ∈ events, event.Succeeded

/-- The last call on the way fails with the error, and all before it succeed. -/
def FailsLast (e : RunError) (s t : RunState ω) : Prop :=
  ∃ front call, t.transcript = s.transcript ++ front ++ [⟨call, .error e⟩] ∧
    ∀ event ∈ front, event.Succeeded

variable {s t u : RunState ω} {e : RunError}

theorem goesWell_of_transcript_eq (htranscript : t.transcript = s.transcript) : s.GoesWell t :=
  ⟨[], by simpa using htranscript, by simp⟩

theorem GoesWell.refl : s.GoesWell s := goesWell_of_transcript_eq rfl

theorem GoesWell.trans (hfirst : s.GoesWell t) (hsecond : t.GoesWell u) : s.GoesWell u := by
  obtain ⟨first, hfront, hgood⟩ := hfirst
  obtain ⟨second, hback, hgood'⟩ := hsecond
  refine ⟨first ++ second, by rw [hback, hfront, List.append_assoc], fun event hevent => ?_⟩
  exact (List.mem_append.mp hevent).elim (hgood event) (hgood' event)

theorem GoesWell.failsLast (hfirst : s.GoesWell t) (hsecond : t.FailsLast e u) :
    s.FailsLast e u := by
  obtain ⟨first, hfront, hgood⟩ := hfirst
  obtain ⟨second, call, hback, hgood'⟩ := hsecond
  refine ⟨first ++ second, call, by simp [hback, hfront], fun event hevent => ?_⟩
  exact (List.mem_append.mp hevent).elim (hgood event) (hgood' event)

theorem goesWell_noted (call : ServiceCall) (reply : Reply) (s : RunState ω) :
    s.GoesWell (s.noted call (.ok reply)) :=
  ⟨[⟨call, .ok reply⟩], rfl, by simp [ServiceEvent.Succeeded]⟩

theorem failsLast_noted (call : ServiceCall) (e : RunError) (s : RunState ω) :
    s.FailsLast e (s.noted call (.error e)) := ⟨[], call, by simp [noted], by simp⟩

end RunState

namespace Run

variable {found : RunState ω → RunError → Prop} {act : Run ω α} {next : α → Run ω β}
  {s : RunState ω}

/-- The action ends well, or fails with the error of its last call, or with an error that is found
where it ends; all other calls succeed. -/
def StopsAtOnce (found : RunState ω → RunError → Prop) (act : Run ω α) (s : RunState ω) : Prop :=
  match outcome act s with
  | (.ok _, t) => s.GoesWell t
  | (.error e, t) => s.FailsLast e t ∨ s.GoesWell t ∧ found t e

theorem StopsAtOnce.bind (hact : StopsAtOnce found act s)
    (hnext : ∀ a t, outcome act s = (.ok a, t) → StopsAtOnce found (next a) t) :
    StopsAtOnce found (act >>= next) s := by
  unfold StopsAtOnce at hact ⊢
  rcases hout : outcome act s with ⟨e | a, t⟩
  · rw [hout] at hact
    rwa [outcome_bind_error hout]
  · rw [hout] at hact
    have hthen := hnext a t hout
    rw [outcome_bind_ok hout]
    unfold StopsAtOnce at hthen
    rcases hend : outcome (next a) t with ⟨e | b, u⟩ <;> rw [hend] at hthen
    · rcases hthen with hfails | ⟨hwell, hfound⟩
      · exact Or.inl (hact.failsLast hfails)
      · exact Or.inr ⟨hact.trans hwell, hfound⟩
    · exact hact.trans hthen

theorem FailsByCall.stopsAtOnce (hfails : FailsByCall (fun _ => True) act s) :
    StopsAtOnce found act s := by
  obtain ⟨events, htranscript, hexplained⟩ := hfails
  unfold StopsAtOnce
  rcases hout : outcome act s with ⟨e | a, t⟩
  · rw [hout] at htranscript hexplained
    obtain ⟨-, front, call, rfl, hfront⟩ := hexplained
    exact Or.inl ⟨front, call, by simpa using htranscript, hfront⟩
  · rw [hout] at htranscript hexplained
    exact ⟨events, htranscript, hexplained⟩

theorem stopsAtOnce_pure (a : α) : StopsAtOnce found (pure a : Run ω α) s :=
  (failsByCall_pure a).stopsAtOnce

theorem stopsAtOnce_throw {e : RunError} (hfound : found s e) :
    StopsAtOnce found (throw e : Run ω α) s := Or.inr ⟨.refl, hfound⟩

theorem stopsAtOnce_orFault {r : Except DocumentError α}
    (hfound : ∀ fault, r = .error fault → found s (.document fault)) :
    StopsAtOnce found (orFault r : Run ω α) s := by
  cases r with
  | ok a => exact stopsAtOnce_pure a
  | error fault => exact stopsAtOnce_throw (hfound fault rfl)

theorem stopsAtOnce_modify {f : RunState ω → RunState ω}
    (hf : (f s).transcript = s.transcript) : StopsAtOnce found (modify f) s :=
  (failsByCall_modify hf).stopsAtOnce

theorem StopsAtOnce.get_bind {next : RunState ω → Run ω α}
    (hnext : StopsAtOnce found (next s) s) : StopsAtOnce found (get >>= next) s := hnext

theorem StopsAtOnce.then_pure (hact : StopsAtOnce found act s) (f : α → β) :
    StopsAtOnce found (do return f (← act)) s :=
  hact.bind fun a _ _ => stopsAtOnce_pure (f a)

end Run

namespace Errand

/-- The errand finds a fault: it raises the error in the state to which its calls have led. -/
inductive Finds [FileTree ω] (around : Surroundings) (s : RunState ω) :
    Errand → RunState ω → RunError → Prop where
  | guard {frame : Frame} {job : Job} {expression : String} {fault : DocumentError}
      (hnew : job.gate.id.any s.isCompleted = false) (hwhen : job.gate.when = some expression)
      (hguard : Guard.evaluate expression s.vars = .error fault) :
      Finds around s (.offer frame job) s (.document fault)
  | unnamed {frame : Frame} {gate : Gate} {q : Question} (hid : gate.id = none) :
      Finds around s (.body frame (.task gate (.question q))) s
        (.document (.invalidJob none "question jobs require an `id`"))
  | undeclared {frame : Frame} {gate : Gate} {target : String}
      (hfind : frame.definitions.find? target = none) :
      Finds around s (.body frame (.task gate (.run target))) s
        (.document (.unknownDefinition target))
  | refused {frame : Frame} {gate : Gate} {target : String} {job : Job} {fault : DocumentError}
      (hfind : frame.definitions.find? target = some job)
      (henter : frame.enter target = .error fault) :
      Finds around s (.body frame (.task gate (.run target))) s (.document fault)
  | pattern {frame : Frame} {gate : Gate} {name text : String} {pairs : List (String × String)}
      {path : Path} {t : RunState ω} {fault : DocumentError}
      (hresolve : outcome (Destination.resolve frame.base name true) s = (.ok (.path path), t))
      (hread : FileTree.read t.files path = .ok text)
      (hpairs : Job.replaceAll t.vars pairs text = .error fault) :
      Finds around s (.body frame (.task gate (.file ⟨name, .replace pairs⟩)))
        (t.noted (.read path) (.ok (.text text))) (.document fault)
  /-- What has been fetched is not JSON. -/
  | body {base : Option Path} {bound : Nat} {url body : String} {e : Json.SyntaxError}
      (hfetch : around.web.fetch url = .ok body) (hjson : Json.parse body = .error e) :
      Finds around s (.document base (bound + 1) (.remote url))
        (s.noted (.fetch url) (.ok (.text body)))
        (.service (.fetchFailed url ("invalid JSON: " ++ e.message)))
  | page {base : Option Path} {bound : Nat} {url body : String} {v : Json}
      {fault : DocumentError} (hfetch : around.web.fetch url = .ok body)
      (hjson : Json.parse body = .ok v) (hdocument : Document.ofJson v = .error fault) :
      Finds around s (.document base (bound + 1) (.remote url))
        (s.noted (.fetch url) (.ok (.text body))) (.document fault)
  | file {base : Option Path} {bound : Nat} {path : Path} {text : String}
      {fault : DocumentError} (hread : FileTree.read s.files path = .ok text)
      (hparse : Document.parse text = .error fault) :
      Finds around s (.document base (bound + 1) (.local path))
        (s.noted (.read path) (.ok (.text text))) (.document fault)
  | tooDeep {base : Option Path} {source : DocumentSource} :
      Finds around s (.document base 0 source) s (.internal "documents are nested too deeply")

end Errand

variable [FileTree ω] {around : Surroundings} {s t : RunState ω} {e : RunError}

namespace Service

variable {found : RunState ω → RunError → Prop}

theorem stopsAtOnce_read_bind {path : Path} {next : String → Run ω α}
    (hnext : ∀ text, FileTree.read s.files path = .ok text →
      StopsAtOnce found (next text) (s.noted (.read path) (.ok (.text text)))) :
    StopsAtOnce found (read path >>= next) s := by
  have hstops : StopsAtOnce found (read path) s :=
    (asks_read (Ports.any ⟨[]⟩ ω) path).fails.stopsAtOnce
  refine hstops.bind fun text t hout => ?_
  rw [outcome_read] at hout
  obtain ⟨hread, rfl⟩ := Prod.mk.inj hout
  rw [hread]
  exact hnext text hread

theorem stopsAtOnce_fetch_bind {web : Web} {url : String} {next : String → Run ω α}
    (hnext : ∀ body, web.fetch url = .ok body →
      StopsAtOnce found (next body) (s.noted (.fetch url) (.ok (.text body)))) :
    StopsAtOnce found (fetch web url >>= next) s := by
  have hstops : StopsAtOnce found (fetch web url) s :=
    (asks_fetch (Ports.any web ω) url).fails.stopsAtOnce
  refine hstops.bind fun body t hout => ?_
  rw [outcome_fetch] at hout
  obtain ⟨hfetch, rfl⟩ := Prod.mk.inj hout
  rw [hfetch]
  exact hnext body hfetch

end Service

/-- The base of all documents is found without any fault in a document. -/
theorem Document.asks_extendedBase {allowed : RunError → Prop} {web : Web}
    (hports : Ports web ω allowed) (extend : Option String) :
    Asks allowed (extendedBase extend : Run ω (Option Path)) s := by
  cases extend with
  | none => exact asks_pure _
  | some name =>
      refine (Destination.asks_resolve hports none name true).bind fun destination _ _ => ?_
      cases destination <;> exact asks_pure _

namespace Errand

theorem stopsAtOnce_shouldRun (frame : Frame) (job : Job) :
    StopsAtOnce (Finds around s (.offer frame job)) (Job.shouldRun job.gate) s := by
  have hconfirmed : ∀ t : RunState ω, StopsAtOnce (Finds around s (.offer frame job))
      (Job.isConfirmed job.gate.confirm) t := fun t =>
    (Job.asks_isConfirmed (Ports.any ⟨[]⟩ ω) job.gate.confirm).fails.stopsAtOnce
  refine StopsAtOnce.get_bind ?_
  split
  · exact stopsAtOnce_pure false
  · rename_i hnew
    refine StopsAtOnce.bind ?_ fun holds t _ => ?_
    · rcases hwhen : job.gate.when with _ | expression
      · exact stopsAtOnce_pure true
      · exact StopsAtOnce.get_bind (stopsAtOnce_orFault fun fault hguard =>
          .guard ((Bool.not_eq_true _).mp hnew) hwhen hguard)
    · split
      · exact stopsAtOnce_pure false
      · exact (Job.asks_isConfirmed (Ports.any ⟨[]⟩ ω) job.gate.confirm).fails.stopsAtOnce

theorem stopsAtOnce_replace (frame : Frame) (gate : Gate) (name : String)
    (pairs : List (String × String)) :
    StopsAtOnce (Finds around s (.body frame (.task gate (.file ⟨name, .replace pairs⟩))))
      (Job.writeFile around frame.base ⟨name, .replace pairs⟩) s := by
  have hports := Ports.any around.web ω
  have hignores : (around.force || (FileWrite.replace pairs).expectsExisting) = true := by
    simp [FileWrite.expectsExisting]
  refine StopsAtOnce.bind (Destination.asks_resolve hports _ _ _).fails.stopsAtOnce ?_
  intro destination t hresolve
  rw [hignores] at hresolve
  cases destination with
  | skip => exact (Service.asks_report _ _).fails.stopsAtOnce
  | path path =>
      refine StopsAtOnce.bind ?_ fun _ _ _ => (Service.asks_report _ _).fails.stopsAtOnce
      refine Service.stopsAtOnce_read_bind fun text hread => ?_
      refine StopsAtOnce.get_bind (StopsAtOnce.bind ?_ fun replaced _ _ =>
        (Service.failsByCall_write hports path replaced).stopsAtOnce)
      exact stopsAtOnce_orFault fun fault hpairs => .pattern hresolve hread hpairs

theorem stopsAtOnce_plain (frame : Frame) (gate : Gate) {task : Task}
    (hplain : task.isPlain = true) :
    StopsAtOnce (Finds around s (.body frame (.task gate task)))
      (Job.runTask around (fun _ _ => return) frame gate.id task) s := by
  have hports := Ports.any around.web ω
  by_cases hnamed : task.Named gate
  · by_cases hcompiles : task.Compiles
    · exact (Job.failsByCall_plain hports frame gate hplain hcompiles hnamed _).stopsAtOnce
    · cases task with
      | file job =>
          obtain ⟨name, write⟩ := job
          cases write with
          | replace pairs => exact stopsAtOnce_replace frame gate name pairs
          | _ => exact absurd trivial hcompiles
      | _ => exact absurd trivial hcompiles
  · cases task with
    | question q =>
        have hid : gate.id = none := Option.eq_none_iff_forall_ne_some.mpr fun id hid =>
          hnamed ⟨id, hid⟩
        rw [hid]
        exact stopsAtOnce_throw (.unnamed hid)
    | _ => exact absurd trivial hnamed

theorem stopsAtOnce_runBody (frame : Frame) (job : Job) :
    StopsAtOnce (Finds around s (.body frame job)) (runBody around frame job) s := by
  cases job with
  | group gate base jobs =>
      exact (Job.asks_groupBase (Ports.any ⟨[]⟩ ω) frame base).fails.stopsAtOnce.then_pure _
  | task gate action =>
      by_cases hplain : action.isPlain = true
      · rw [runBody_plain around frame gate hplain]
        exact (stopsAtOnce_plain frame gate hplain).then_pure _
      · cases action with
        | run target =>
            rw [runBody]
            rcases hfind : frame.definitions.find? target with _ | job
            · exact stopsAtOnce_throw (.undeclared hfind)
            · exact (stopsAtOnce_orFault fun fault henter => .refused hfind henter).then_pure _
        | _ => exact absurd rfl hplain

theorem stopsAtOnce_obtain (base : Option Path) (bound : Nat) (source : DocumentSource) :
    StopsAtOnce (Finds around s (.document base (bound + 1) source))
      (Document.obtain around.web source) s := by
  cases source with
  | remote url =>
      refine Service.stopsAtOnce_fetch_bind fun body hfetch => ?_
      split
      next hjson => exact stopsAtOnce_throw (.body hfetch hjson)
      next hjson =>
        exact stopsAtOnce_orFault fun fault hdocument => .page hfetch hjson hdocument
  | «local» path =>
      refine Service.stopsAtOnce_read_bind fun text hread => ?_
      exact stopsAtOnce_orFault fun fault hparse => .file hread hparse

omit [FileTree ω] in
theorem stopsAtOnce_runEntry {found : RunState ω → RunError → Prop} (base : Option Path)
    (bound : Nat) (entry : Dependency) : StopsAtOnce found (runEntry base bound entry) s := by
  rw [runEntry]
  split
  · refine StopsAtOnce.get_bind ?_
    split
    · exact stopsAtOnce_pure _
    · exact (stopsAtOnce_modify rfl).then_pure _
  · exact (stopsAtOnce_modify rfl).then_pure _

/-- Every errand stops at the first call that fails and at the first fault that it finds. -/
theorem stopsAtOnce_perform (around : Surroundings) (errand : Errand) (s : RunState ω) :
    StopsAtOnce (Finds around s errand) (errand.perform around) s := by
  cases errand with
  | root extend text =>
      refine StopsAtOnce.bind (stopsAtOnce_modify rfl) fun _ t _ => ?_
      exact (Document.asks_extendedBase (Ports.any ⟨[]⟩ ω) extend).fails.stopsAtOnce.then_pure _
  | document base bound source =>
      cases bound with
      | zero => exact stopsAtOnce_throw .tooDeep
      | succ bound => exact (stopsAtOnce_obtain base bound source).then_pure _
  | dependency base bound entry => exact stopsAtOnce_runEntry base bound entry
  | registry names => exact (stopsAtOnce_modify rfl).then_pure _
  | offer frame job =>
      refine StopsAtOnce.bind (stopsAtOnce_shouldRun frame job) fun runs t _ => ?_
      cases runs <;> exact stopsAtOnce_pure _
  | body frame job => exact stopsAtOnce_runBody frame job
  | record id => exact (stopsAtOnce_modify (Job.transcript_finish id s)).then_pure _

/-- A fault that is found is the outcome of the errand. -/
theorem Finds.outcome_perform {errand : Errand} (hfinds : errand.Finds around s t e) :
    outcome (errand.perform around) s = (.error e, t) := by
  cases hfinds with
  | guard hnew hwhen hguard =>
      refine outcome_bind_error ?_ _
      rw [Job.shouldRun, outcome_get_bind, hnew, hwhen]
      refine outcome_bind_error ?_ _
      rw [Job.isOpen, outcome_get_bind, hguard]
      rfl
  | unnamed hid =>
      refine outcome_bind_error ?_ _
      rw [hid]
      rfl
  | undeclared hfind =>
      rw [perform, runBody, hfind]
      rfl
  | refused hfind henter =>
      rw [perform, runBody, hfind, henter]
      rfl
  | @pattern _ _ name text pairs path u fault hresolve hread hpairs =>
      have hignores : (around.force || (FileWrite.replace pairs).expectsExisting) = true := by
        simp [FileWrite.expectsExisting]
      refine outcome_bind_error ?_ _
      rw [Job.runTask, Job.writeFile, hignores, outcome_bind_ok hresolve]
      refine outcome_bind_error ?_ _
      have hout : outcome (Service.read path) u =
          (.ok text, u.noted (.read path) (.ok (.text text))) := by
        rw [Service.outcome_read, hread]
        rfl
      rw [Job.applyWrite, outcome_bind_ok hout, outcome_get_bind]
      refine outcome_bind_error ?_ _
      rw [outcome_orFault, RunState.noted, hpairs]
      rfl
  | body hfetch hjson =>
      refine outcome_bind_error ?_ _
      rw [Document.obtain, outcome_bind, Service.outcome_fetch, hfetch]
      simp only [hjson]
      rfl
  | page hfetch hjson hdocument =>
      refine outcome_bind_error ?_ _
      rw [Document.obtain, outcome_bind, Service.outcome_fetch, hfetch]
      simp only [hjson, outcome_orFault, hdocument]
      rfl
  | file hread hparse =>
      refine outcome_bind_error ?_ _
      rw [Document.obtain, outcome_bind, Service.outcome_read, hread]
      simp only [outcome_orFault, hparse]
      rfl
  | tooDeep => rfl

/-- A fault is found after calls that have gone well. -/
theorem Finds.goesWell {errand : Errand} (hfinds : errand.Finds around s t e) : s.GoesWell t := by
  cases hfinds with
  | @pattern frame _ name text pairs path u fault hresolve hread hpairs =>
      have hstops : StopsAtOnce (fun _ _ => False)
          (Destination.resolve frame.base name true) s :=
        (Destination.asks_resolve (Ports.any ⟨[]⟩ ω) frame.base name true).fails.stopsAtOnce
      rw [StopsAtOnce, hresolve] at hstops
      exact hstops.trans (RunState.goesWell_noted _ _ u)
  | body => exact RunState.goesWell_noted _ _ s
  | page => exact RunState.goesWell_noted _ _ s
  | file => exact RunState.goesWell_noted _ _ s
  | _ => exact .refl

end Errand

namespace Moment

variable {m : Moment ω}

/-- At some moment of the run, the errand that is to be done finds a fault. -/
def FindsFault (around : Surroundings) (m : Moment ω) (t : RunState ω) (e : RunError) : Prop :=
  ∃ steps errand rest, (m.after around steps).agenda = errand :: rest ∧
    errand.Finds around (m.after around steps).state t e

/-- Until a run fails, all calls go well; it fails at its last call, or where a fault is found. -/
theorem stops_after (around : Surroundings) (hstart : m.failure = none) (steps : Nat) :
    let last := m.after around steps
    (last.failure = none → m.state.GoesWell last.state) ∧
      ∀ e, last.failure = some e → m.state.FailsLast e last.state ∨
        m.FindsFault around last.state e := by
  induction steps with
  | zero =>
      refine ⟨fun _ => .refl, fun e hfailure => ?_⟩
      rw [after_zero, hstart] at hfailure
      cases hfailure
  | succ n ih =>
      obtain ⟨hwell, hfailed⟩ := ih
      rw [after_succ]
      rcases hagenda : (m.after around n).agenda with _ | ⟨errand, rest⟩
      · rw [next_of_nil hagenda]
        exact ⟨hwell, hfailed⟩
      · have hgoing := failure_eq_none_of_agenda hstart hagenda
        have hstops := Errand.stopsAtOnce_perform around errand (m.after around n).state
        rw [next_of_cons hagenda]
        unfold StopsAtOnce at hstops
        rcases hout : outcome (errand.perform around) (m.after around n).state with ⟨e | more, t⟩
        · rw [hout] at hstops
          refine ⟨by simp [resume], fun other hother => ?_⟩
          obtain rfl : e = other := by simpa [resume] using hother
          rcases hstops with hlast | ⟨-, hfinds⟩
          · exact Or.inl ((hwell hgoing).failsLast hlast)
          · exact Or.inr ⟨n, errand, rest, hagenda, hfinds⟩
        · rw [hout] at hstops
          exact ⟨fun _ => (hwell hgoing).trans hstops, by simp [resume]⟩

/-- A run that comes to the action is over where a fault is found. -/
theorem EndsAs.eq_of_findsFault {act : Run ω Unit} (hends : m.EndsAs around act)
    (hfault : m.FindsFault around t e) : outcome act m.state = (.error e, t) := by
  obtain ⟨steps, errand, rest, hagenda, hfinds⟩ := hfault
  have hnext : m.after around (steps + 1) = ⟨[], t, some e⟩ := by
    rw [after_succ, next_of_cons hagenda, hfinds.outcome_perform]
    rfl
  obtain ⟨more, hlast⟩ := hends.after_add (steps + 1)
  rw [Moment.after_add, hnext, after_of_nil rfl] at hlast
  rcases hout : outcome act m.state with ⟨other | ⟨⟩, u⟩
  · rw [hout] at hlast
    cases hlast
    rfl
  · rw [hout] at hlast
    cases hlast

theorem goesWell_of_findsFault (hstart : m.failure = none) (hfault : m.FindsFault around t e) :
    m.state.GoesWell t := by
  obtain ⟨steps, errand, rest, hagenda, hfinds⟩ := hfault
  have hgoing := failure_eq_none_of_agenda hstart hagenda
  exact ((stops_after around hstart steps).1 hgoing).trans hfinds.goesWell

/-- What a run comes to goes well, fails at its last call, or ends where a fault is found. -/
theorem EndsAs.stopsAtOnce {act : Run ω Unit} (hends : m.EndsAs around act)
    (hstart : m.failure = none) : StopsAtOnce (m.FindsFault around) act m.state := by
  obtain ⟨steps, hlast⟩ := hends
  obtain ⟨hwell, hfailed⟩ := stops_after around hstart steps
  rw [hlast] at hwell hfailed
  unfold StopsAtOnce
  rcases hout : outcome act m.state with ⟨e | ⟨⟩, t⟩
  · rw [hout] at hfailed
    rcases hfailed e rfl with hlast | hfault
    · exact Or.inl hlast
    · exact Or.inr ⟨goesWell_of_findsFault hstart hfault, hfault⟩
  · rw [hout] at hwell
    exact hwell rfl

end Moment

section Transcripts

variable {found : RunState ω → RunError → Prop} {act : Run ω α}

omit [FileTree ω] in
theorem eq_nil_of_succeeded {front before back : List ServiceEvent} {last failed : ServiceEvent}
    (hfront : ∀ event ∈ front, event.Succeeded) (hfailed : ¬failed.Succeeded)
    (hsplit : front ++ [last] = before ++ failed :: back) : back = [] ∧ failed = last := by
  rcases List.eq_nil_or_concat back with rfl | ⟨others, other, rfl⟩
  · obtain ⟨-, hlast⟩ := List.append_inj' hsplit rfl
    exact ⟨rfl, (List.singleton_inj.mp hlast).symm⟩
  · have hprefix : front = before ++ failed :: others := by
      have hlonger : front ++ [last] = (before ++ failed :: others) ++ [other] := by
        simpa using hsplit
      exact (List.append_inj' hlonger rfl).1
    exact absurd (hfront failed (by simp [ hprefix])) hfailed

/-- How a run with those calls before it fails: at once, for there is nothing after a call that
fails, nor after a fault that is found. -/
structure FailsFast (before : List ServiceEvent) (found : RunState ω → RunError → Prop)
    (r : Except RunError α × RunState ω) : Prop where
  /-- A call that fails is the last one, and its error is the result. -/
  call : ∀ front call e back, r.2.transcript = before ++ front ++ ⟨call, .error e⟩ :: back →
    back = [] ∧ r.1 = .error e
  /-- A fault that is found is the result, and it is found after calls that have succeeded. -/
  fault : ∀ t e, found t e → r = (.error e, t) ∧
    ∃ events, t.transcript = before ++ events ∧ ∀ event ∈ events, event.Succeeded
  /-- There are no other errors. -/
  reason : ∀ e, r.1 = .error e → found r.2 e ∨
    ∃ front call, r.2.transcript = before ++ front ++ [⟨call, .error e⟩]

omit [FileTree ω] in
theorem Run.StopsAtOnce.failsFast (hstops : StopsAtOnce found act s)
    (hfound : ∀ t e, found t e → outcome act s = (.error e, t))
    (hwell : ∀ t e, found t e → s.GoesWell t) :
    FailsFast s.transcript found (outcome act s) := by
  unfold StopsAtOnce at hstops
  have hnever : ∀ call e, ¬(ServiceEvent.mk call (.error e)).Succeeded := by
    simp [ServiceEvent.Succeeded]
  have hquiet : ∀ {t : RunState ω} {front call e back}, s.GoesWell t →
      t.transcript ≠ s.transcript ++ front ++ ⟨call, .error e⟩ :: back := by
    rintro t front call e back ⟨events, htranscript, hgood⟩ hsplit
    obtain rfl : events = front ++ ⟨call, .error e⟩ :: back := by simpa [htranscript] using hsplit
    exact hnever call e (hgood _ (by simp))
  refine ⟨?_, fun t e hfault => ⟨hfound t e hfault, hwell t e hfault⟩, ?_⟩
  · intro front call e back hsplit
    rcases hout : outcome act s with ⟨other | a, t⟩ <;> rw [hout] at hstops hsplit
    · rcases hstops with ⟨events, last, htranscript, hgood⟩ | ⟨hgood, -⟩
      · have hevents : events ++ [⟨last, .error other⟩] = front ++ ⟨call, .error e⟩ :: back := by
          simpa [htranscript] using hsplit
        obtain ⟨rfl, hlast⟩ := eq_nil_of_succeeded hgood (hnever call e) hevents
        obtain ⟨-, hsame⟩ := ServiceEvent.mk.inj hlast
        exact ⟨rfl, congrArg Except.error (Except.error.inj hsame).symm⟩
      · exact absurd hsplit (hquiet hgood)
    · exact absurd hsplit (hquiet hstops)
  · intro e he
    rcases hout : outcome act s with ⟨other | a, t⟩ <;> rw [hout] at hstops he
    · obtain rfl : other = e := Except.error.inj he
      rcases hstops with ⟨events, last, htranscript, -⟩ | ⟨-, hfault⟩
      · exact Or.inr ⟨events, last, htranscript⟩
      · exact Or.inl hfault
    · cases he

end Transcripts

theorem Job.failsFast_runAll (around : Surroundings) (frame : Frame) (jobs : List Job)
    (s : RunState ω) :
    FailsFast s.transcript ((Moment.start (jobs.map (.offer frame)) s).FindsFault around)
      (outcome (runAll around frame jobs) s) := by
  have hends := (unfolds_runAll around frame jobs s).endsAs
  exact (hends.stopsAtOnce rfl).failsFast (fun t e => hends.eq_of_findsFault) fun t e =>
    Moment.goesWell_of_findsFault rfl

namespace SessionInput

variable [Repository ω] {i : SessionInput ω} {table : VariableTable}

/-- The store has been loaded, and the documents that follow are found to be at fault. -/
def FindsFault (i : SessionInput ω) (t : RunState ω) (e : RunError) : Prop :=
  ∃ table, Repository.loadStore i.files = .ok table ∧ (i.outset table).FindsFault i.around t e

omit [FileTree ω] [Repository ω] in
theorem goesWell_opening (i : SessionInput ω) (table : VariableTable) :
    i.fresh.GoesWell (i.opening table) :=
  ⟨[⟨.loadStore, .ok (.table table)⟩], rfl, by simp [ServiceEvent.Succeeded]⟩

theorem goesWell_of_findsFault (hfault : i.FindsFault t e) : i.fresh.GoesWell t := by
  obtain ⟨table, -, hfault⟩ := hfault
  exact (i.goesWell_opening table).trans (Moment.goesWell_of_findsFault rfl hfault)

theorem run_eq_of_findsFault (hfault : i.FindsFault t e) : i.run = (.error e, t) := by
  obtain ⟨table, hload, hfault⟩ := hfault
  have hdocuments : outcome i.documents (i.opening table) = (.error e, t) :=
    (i.endsAs_documents table).eq_of_findsFault hfault
  rw [run_of_loaded hload, outcome_bind_error hdocuments]

theorem stopsAtOnce (i : SessionInput ω) :
    StopsAtOnce i.FindsFault (Session.run i.web i.options i.source) i.fresh := by
  have hrun : outcome (Session.run i.web i.options i.source) i.fresh = (i.run.1, i.run.2) := rfl
  have hcourse := i.course
  rw [StopsAtOnce, hrun]
  generalize i.run.1 = result, i.run.2 = final at hcourse ⊢
  have hdocuments (table : VariableTable) : StopsAtOnce
      ((i.outset table).FindsFault i.around) i.documents (i.opening table) :=
    (i.endsAs_documents table).stopsAtOnce rfl
  have hopening := i.goesWell_opening
  cases hcourse with
  | unread e hload => exact Or.inl (RunState.failsLast_noted _ e i.fresh)
  | failed table e t hload hout =>
      have hstops := hdocuments table
      rw [StopsAtOnce, hout] at hstops
      rcases hstops with hlast | ⟨hwell, hfault⟩
      · exact Or.inl ((hopening table).failsLast hlast)
      · exact Or.inr ⟨(hopening table).trans hwell, table, hload, hfault⟩
  | unsaved table t hload hout hempty =>
      have hstops := hdocuments table
      rw [StopsAtOnce, hout] at hstops
      exact (hopening table).trans hstops
  | saved table t files hload hout hfull hsave =>
      have hstops := hdocuments table
      rw [StopsAtOnce, hout] at hstops
      have hnoted : t.GoesWell
          ({ t with files }.noted (.saveStore t.vars.store) (.ok .done)) :=
        RunState.goesWell_noted _ _ { t with files }
      exact ((hopening table).trans hstops).trans hnoted
  | refused table t e files hload hout hfull hsave =>
      have hstops := hdocuments table
      rw [StopsAtOnce, hout] at hstops
      have hnoted : t.FailsLast e
          ({ t with files }.noted (.saveStore t.vars.store) (.error e)) :=
        RunState.failsLast_noted _ e { t with files }
      exact Or.inl (((hopening table).trans hstops).failsLast hnoted)

end SessionInput

namespace Session

/-- A list of jobs, and a whole session, stop at the first call that fails and at the first fault
that is found in a document. -/
theorem fails_fast [Repository ω] :
    (∀ (around : Surroundings) (frame : Frame) (jobs : List Job) (s : RunState ω),
      FailsFast s.transcript ((Moment.start (jobs.map (.offer frame)) s).FindsFault around)
        (outcome (Job.runAll around frame jobs) s)) ∧
    ∀ i : SessionInput ω, FailsFast [] i.FindsFault i.run :=
  ⟨Job.failsFast_runAll, fun i => i.stopsAtOnce.failsFast
    (fun _ _ => SessionInput.run_eq_of_findsFault)
    fun _ _ => SessionInput.goesWell_of_findsFault⟩

/-- The second of the three jobs runs a definition that is not there. -/
def brokenText : String :=
  "\x7b\"jobs\":[\x7b\"type\":\"log\",\"message\":\"hello\"\x7d," ++
    "\x7b\"type\":\"run\",\"target\":\"page\"\x7d," ++
    "\x7b\"type\":\"log\",\"message\":\"bye\"\x7d]\x7d"

def brokenJobs : List Job :=
  [ .task ⟨none, none, none⟩ (.log .log "hello"),
    .task ⟨none, none, none⟩ (.run "page"),
    .task ⟨none, none, none⟩ (.log .log "bye") ]

def broken : Document where
  name := none
  title := none
  version := none
  description := none
  jobs := brokenJobs
  dependencies := []
  registryDependencies := []
  definitions := []

theorem parse_brokenText : Document.parse brokenText = .ok broken := by
  cbv

def brokenInput : SessionInput (Workplace MemoryFiles) where
  web := ⟨[]⟩
  options := ⟨false, none⟩
  prompter := .script []
  source := "broken.json"
  files := ⟨MemoryFiles.empty.put ⟨"broken.json"⟩ brokenText, .ofTable .empty⟩

def brokenStart : RunState (Workplace MemoryFiles) :=
  (brokenInput.opening .empty).visit "broken.json"

def brokenRead : RunState (Workplace MemoryFiles) :=
  brokenStart.noted (.read ⟨"broken.json"⟩) (.ok (.text brokenText))

theorem obtain_broken :
    outcome (Document.obtain brokenInput.around.web (.local ⟨"broken.json"⟩)) brokenStart =
      (.ok broken, brokenRead) := by
  have hread : outcome (Service.read ⟨"broken.json"⟩) brokenStart =
      (.ok brokenText, brokenRead) := rfl
  rw [Document.obtain, outcome_bind_ok hread, parse_brokenText]
  rfl

/-- After the first report, the definition is found to be missing. -/
theorem findsFault_broken :
    brokenInput.FindsFault (brokenRead.noted (.report .log "hello") (.ok .done))
      (.document (.unknownDefinition "page")) := by
  have hroot : (brokenInput.outset .empty).after brokenInput.around 1 =
      ⟨[.document none (9999 + 1) (.local ⟨"broken.json"⟩)], brokenStart, none⟩ := rfl
  have hread : (brokenInput.outset .empty).after brokenInput.around 2 =
      ⟨brokenJobs.map (.offer (Frame.root none [])) ++ [.registry []], brokenRead, none⟩ := by
    rw [Moment.after_succ, hroot, Moment.next_of_cons rfl, Errand.perform,
      outcome_bind_ok obtain_broken]
    rfl
  have hreported : (brokenInput.outset .empty).after brokenInput.around 5 =
      ⟨.body (Frame.root none []) (.task ⟨none, none, none⟩ (.run "page")) ::
        [ .offer (Frame.root none []) (.task ⟨none, none, none⟩ (.log .log "bye")),
          .registry [] ],
        brokenRead.noted (.report .log "hello") (.ok .done), none⟩ := by
    rw [show 5 = 2 + 3 from rfl, Moment.after_add, hread]
    rfl
  refine ⟨.empty, rfl, 5, _, _, congrArg Moment.agenda hreported, ?_⟩
  rw [hreported]
  exact .undeclared rfl

theorem fails_fast_broken :
    brokenInput.run = (.error (.document (.unknownDefinition "page")),
      brokenRead.noted (.report .log "hello") (.ok .done)) := by
  have hfast := (fails_fast (ω := Workplace MemoryFiles)).2 brokenInput
  exact (hfast.fault _ _ findsFault_broken).1

end Session
end Scaffold
