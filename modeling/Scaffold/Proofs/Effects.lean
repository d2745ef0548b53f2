import Scaffold.Proofs.Agenda
import Scaffold.Proofs.FileJobs

/-!
# What errands change

An errand does one thing at most beside its calls: it notes a document as seen, collects what is
pending, puts text into a file, keeps an answer or marks an id.  What a run keeps follows from these
cases.
-/

namespace Scaffold

open Run

variable {ω α : Type}

namespace Variables

def HasId (vars : Variables) (id : String) : Prop :=
  vars.isDefined (VariableRef.ofJobId id).scope (VariableRef.ofJobId id).name = true

def setId (id value : String) (vars : Variables) : Variables :=
  vars.set (VariableRef.ofJobId id).scope (VariableRef.ofJobId id).name value

end Variables

namespace Pending

variable {p q r : Pending} {names : List String}

theorem append_def : p ++ q = ⟨p.packages ++ q.packages, p.registry ++ q.registry⟩ := rfl

@[simp] theorem append_empty : p ++ empty = p := by simp [append_def, empty]

theorem append_assoc : p ++ q ++ r = p ++ (q ++ r) := by simp [append_def]

theorem addPackages_eq : p.addPackages names = p ++ ⟨names.map .package, []⟩ := by
  simp [addPackages, append_def]

theorem addRegistry_eq : p.addRegistry names = p ++ ⟨[], names⟩ := by
  simp [addRegistry, append_def]

end Pending

namespace RunState

variable {member other : String} {members : List String}

theorem inserted_of_mem (hmem : member ∈ members) : inserted member members = members := by
  simp [inserted, hmem]

theorem inserted_of_notMem (hnew : member ∉ members) :
    inserted member members = members ++ [member] := by
  simp [inserted, hnew]

theorem mem_inserted : other ∈ inserted member members ↔ other ∈ members ∨ other = member := by
  by_cases hmem : member ∈ members
  · have hself : other = member → other ∈ members := fun heq => heq ▸ hmem
    simpa [inserted_of_mem hmem] using hself
  · simp [inserted_of_notMem hmem]

end RunState

namespace Job

variable (id : String) (s : RunState ω)

@[simp] theorem files_finish : (finish id s).files = s.files := by
  unfold finish
  dsimp only
  split <;> rfl

@[simp] theorem pending_finish : (finish id s).pending = s.pending := by
  unfold finish
  dsimp only
  split <;> rfl

@[simp] theorem visited_finish : (finish id s).visited = s.visited := by
  unfold finish
  dsimp only
  split <;> rfl

@[simp] theorem transcript_finish : (finish id s).transcript = s.transcript := by
  unfold finish
  dsimp only
  split <;> rfl

@[simp] theorem completed_finish :
    (finish id s).completed = RunState.inserted id s.completed := by
  unfold finish
  dsimp only
  split <;> rfl

end Job

namespace Job

variable [FileTree ω] {s : RunState ω}

omit [FileTree ω] in
theorem outcome_answerQuestion_of_hasId {id : String} (hvalue : s.vars.HasId id) (q : Question) :
    outcome (answerQuestion (some id) q) s = (.ok (), s) := by
  unfold Variables.HasId at hvalue
  simp only [answerQuestion, outcome_get_bind, hvalue]
  rfl

omit [FileTree ω] in
theorem outcome_answerQuestion_of_not_hasId {id : String} (hundefined : ¬s.vars.HasId id)
    (q : Question) :
    outcome (answerQuestion (some id) q) s =
      outcome (do
        let answer ← askQuestion q
        modify fun t => { t with vars := t.vars.setId id answer }) s := by
  have hnone := (Bool.not_eq_true _).mp hundefined
  simp only [answerQuestion, outcome_get_bind, hnone]
  rfl

/-- A question leaves its answer where nothing was, or changes nothing but to make calls. -/
theorem quiet_or_answered (id : String) (q : Question) (s : RunState ω) :
    Quiet (answerQuestion (some id) q) s ∨
      ¬s.vars.HasId id ∧ ∃ answer t, outcome (askQuestion q) s = (.ok answer, t) ∧
        outcome (answerQuestion (some id) q) s =
          (.ok (), { t with vars := t.vars.setId id answer }) := by
  by_cases hvalue : s.vars.HasId id
  · left
    rw [Quiet, outcome_answerQuestion_of_hasId hvalue q]
    exact RunState.QuietTo.refl
  · have hopen := outcome_answerQuestion_of_not_hasId hvalue q
    rcases hasked : outcome (askQuestion q) s with ⟨e | answer, t⟩
    · obtain ⟨events, prompter, hstate, hevents⟩ := quiet_askQuestion (s := s) q
      rw [hasked] at hstate
      refine Or.inl ⟨events, prompter, ?_, hevents⟩
      rw [hopen, outcome_bind_error hasked]
      exact hstate
    · refine Or.inr ⟨hvalue, answer, t, rfl, ?_⟩
      rw [hopen, outcome_bind_ok hasked]
      rfl

end Job

variable [FileTree ω] {s : RunState ω}

namespace Document

theorem quiet_obtain (web : Web) (source : DocumentSource) :
    Quiet (obtain web source : Run ω Document) s := by
  cases source with
  | remote url =>
      refine (Service.asks_fetch (Ports.any web ω) url).quiet.bind fun body t _ => ?_
      split
      · exact quiet_throw _
      · exact quiet_orFault _
  | «local» path =>
      exact (Service.quiet_read path).bind fun body t _ => quiet_orFault _

theorem quiet_extendedBase (extend : Option String) :
    Quiet (extendedBase extend : Run ω (Option Path)) s := by
  cases extend with
  | none => exact quiet_pure _
  | some name =>
      refine (Destination.quiet_resolve none name true).bind fun destination t _ => ?_
      cases destination <;> exact quiet_pure _

end Document

namespace Errand

/-- The reference of the document that an errand notes as seen. -/
def reference? : Errand → Option String
  | .root _ text => some (DocumentSource.parse text).key
  | .dependency _ _ entry => (Document.linked? entry).map DocumentSource.key
  | _ => none

inductive Effect (s t : RunState ω) : Errand → Prop where
  | quiet {errand : Errand} (hquiet : s.QuietTo t) : Effect s t errand
  | visit {errand : Errand} (key : String) (hkey : errand.reference? = some key)
      (hquiet : (s.visit key).QuietTo t) : Effect s t errand
  | collect {errand : Errand} (own : Pending)
      (hstate : t = { s with pending := s.pending ++ own }) : Effect s t errand
  | file (frame : Frame) (gate : Gate) (job : FileJob) (path : Path)
      (front : List ServiceEvent) (hputs : RunState.Puts path front s t) :
      Effect s t (.body frame (.task gate (.file job)))
  | answer (frame : Frame) (gate : Gate) (q : Question) (id answer : String) (u : RunState ω)
      (hid : gate.id = some id) (hundefined : ¬s.vars.HasId id) (hquiet : s.QuietTo u)
      (hstate : t = { u with vars := u.vars.setId id answer }) :
      Effect s t (.body frame (.task gate (.question q)))
  | record (id : String) (hstate : t = Job.finish id s) : Effect s t (.record id)

theorem effect_question (around : Surroundings) (frame : Frame) (gate : Gate) (q : Question)
    (s : RunState ω) :
    Effect s (outcome (runBody around frame (.task gate (.question q))) s).2
      (.body frame (.task gate (.question q))) := by
  have hbody : (outcome (runBody around frame (.task gate (.question q))) s).2 =
      (outcome (Job.answerQuestion gate.id q) s).2 := outcome_return_snd _ _ s
  rw [hbody]
  rcases hid : gate.id with _ | id
  · exact .quiet RunState.QuietTo.refl
  · rcases Job.quiet_or_answered id q s with hquiet | ⟨hundefined, answer, t, hasked, hanswered⟩
    · exact .quiet hquiet
    · have hquiet := (Job.quiet_askQuestion q).quietTo hasked
      rw [hanswered]
      exact .answer frame gate q id answer t hid hundefined hquiet rfl

theorem effect_runBody (around : Surroundings) (frame : Frame) (job : Job) (s : RunState ω) :
    Effect s (outcome (runBody around frame job) s).2 (.body frame job) := by
  cases job with
  | group gate base jobs =>
      exact .quiet ((Job.quiet_groupBase frame base).bind fun _ _ _ => quiet_pure _)
  | task gate action =>
      cases action with
      | file job =>
          have hbody : (outcome (runBody around frame (.task gate (.file job))) s).2 =
              (outcome (Job.writeFile around frame.base job) s).2 := outcome_return_snd _ _ s
          rw [hbody]
          rcases Job.quietTo_or_puts (s := s) around frame.base job with
            hquiet | ⟨path, calls, front, -, hputs⟩
          · exact .quiet hquiet
          · exact .file frame gate job path (calls ++ front) hputs
      | question q => exact effect_question around frame gate q s
      | registryDependencies names =>
          exact .collect ⟨[], names⟩ (congrArg (fun p => { s with pending := p })
            Pending.addRegistry_eq)
      | dependencies names =>
          exact .collect ⟨names.map .package, []⟩ (congrArg (fun p => { s with pending := p })
            Pending.addPackages_eq)
      | log level message =>
          exact .quiet ((Service.quiet_report level message).bind fun _ _ _ => quiet_pure _)
      | run target =>
          refine .quiet ?_
          simp only [runBody]
          split
          · exact quiet_throw _
          · exact (quiet_orFault _).bind fun _ _ _ => quiet_pure _

theorem effect_runEntry (base : Option Path) (bound : Nat) (entry : Dependency)
    (s : RunState ω) :
    Effect s (outcome (runEntry base bound entry) s).2 (.dependency base bound entry) := by
  unfold runEntry
  rcases hlinked : Document.linked? entry with _ | source
  · have hpending : (⟨s.pending.packages ++ [entry], s.pending.registry⟩ : Pending) =
        s.pending ++ ⟨[entry], []⟩ := by simp [Pending.append_def]
    exact .collect ⟨[entry], []⟩ (congrArg (fun p => { s with pending := p }) hpending)
  · dsimp only
    rw [outcome_get_bind]
    by_cases hseen : s.isVisited source.key = true
    · rw [if_pos hseen]
      exact .quiet RunState.QuietTo.refl
    · rw [if_neg hseen]
      exact .visit source.key (by simp [reference?, hlinked]) RunState.QuietTo.refl

/-- Every errand has one of the effects. -/
theorem effect_perform (around : Surroundings) (errand : Errand) (s : RunState ω) :
    Effect s (outcome (errand.perform around) s).2 errand := by
  cases errand with
  | root extend text =>
      refine .visit (DocumentSource.parse text).key rfl ?_
      exact (Document.quiet_extendedBase (s := s.visit (DocumentSource.parse text).key) extend).bind
        fun base _ _ => quiet_pure [Errand.document base (Document.depthBound around.web)
          (DocumentSource.parse text)]
  | document base bound source =>
      cases bound with
      | zero => exact .quiet (quiet_throw _)
      | succ bound =>
          exact .quiet ((Document.quiet_obtain around.web source).bind fun _ _ _ =>
            quiet_pure _)
  | dependency base bound entry => exact effect_runEntry base bound entry s
  | registry names =>
      exact .collect ⟨[], names⟩ (congrArg (fun p => { s with pending := p })
        Pending.addRegistry_eq)
  | offer frame job =>
      refine .quiet ((Job.quiet_shouldRun job.gate).bind fun runs t _ => ?_)
      cases runs <;> exact quiet_pure _
  | body frame job => exact effect_runBody around frame job s
  | record id => exact .record id rfl

namespace Effect

variable {errand : Errand} {s t : RunState ω}

theorem files (heffect : Effect s t errand) :
    t.files = s.files ∨ (∃ frame gate job, errand = .body frame (.task gate (.file job))) ∧
      ∃ call : ServiceCall, t.files = call.apply s.files := by
  cases heffect with
  | quiet hquiet => exact Or.inl hquiet.files
  | visit key _ hquiet => exact Or.inl hquiet.files
  | collect own hstate => exact Or.inl (hstate ▸ rfl)
  | file frame gate job path front hputs =>
      obtain ⟨event, back, prompter, rfl, -⟩ := hputs
      exact Or.inr ⟨⟨frame, gate, job, rfl⟩, event.call, rfl⟩
  | answer _ _ _ _ _ _ _ _ hquiet hstate => exact Or.inl (hstate ▸ hquiet.files)
  | record id hstate => exact Or.inl (hstate ▸ Job.files_finish id s)

theorem completed (heffect : Effect s t errand) :
    t.completed = s.completed ∨ ∃ id, errand = .record id ∧ t = Job.finish id s := by
  cases heffect with
  | quiet hquiet => exact Or.inl hquiet.completed
  | visit key _ hquiet => exact Or.inl hquiet.completed
  | collect own hstate => exact Or.inl (hstate ▸ rfl)
  | file _ _ _ _ _ hputs =>
      obtain ⟨event, back, prompter, rfl, -⟩ := hputs
      exact Or.inl rfl
  | answer _ _ _ _ _ _ _ _ hquiet hstate => exact Or.inl (hstate ▸ hquiet.completed)
  | record id hstate => exact Or.inr ⟨id, rfl, hstate⟩

/-- What is pending only grows, at its end. -/
theorem pending (heffect : Effect s t errand) : ∃ own, t.pending = s.pending ++ own := by
  cases heffect with
  | quiet hquiet => exact ⟨.empty, by simp [hquiet.pending]⟩
  | visit key _ hquiet => exact ⟨.empty, by simp [hquiet.pending, RunState.visit]⟩
  | collect own hstate => exact ⟨own, hstate ▸ rfl⟩
  | file _ _ _ _ _ hputs =>
      obtain ⟨event, back, prompter, rfl, -⟩ := hputs
      exact ⟨.empty, by simp⟩
  | answer _ _ _ _ _ _ _ _ hquiet hstate => exact ⟨.empty, by simp [hstate, hquiet.pending]⟩
  | record id hstate => exact ⟨.empty, by simp [hstate]⟩

theorem visited (heffect : Effect s t errand) :
    t.visited = s.visited ∨
      ∃ key, errand.reference? = some key ∧ t.visited = RunState.inserted key s.visited := by
  cases heffect with
  | quiet hquiet => exact Or.inl hquiet.visited
  | visit key hkey hquiet => exact Or.inr ⟨key, hkey, hquiet.visited⟩
  | collect own hstate => exact Or.inl (hstate ▸ rfl)
  | file _ _ _ _ _ hputs =>
      obtain ⟨event, back, prompter, rfl, -⟩ := hputs
      exact Or.inl rfl
  | answer _ _ _ _ _ _ _ _ hquiet hstate => exact Or.inl (hstate ▸ hquiet.visited)
  | record id hstate => exact Or.inl (hstate ▸ Job.visited_finish id s)

end Effect

end Errand
end Scaffold
