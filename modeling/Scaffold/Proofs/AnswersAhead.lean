import Scaffold.Proofs.PromptRounds
import Scaffold.Proofs.Questions

/-!
# Answers ahead

Each prompt takes the next answer, or none when there is none.  What is asked and done depends on
the answers that are taken alone: with more answers behind them a run goes the same way, and the
answers that it has not taken are left.
-/

namespace Scaffold

open Run

variable {ω α β : Type}

/-- What a prompt makes of an answer. -/
def ServiceCall.reading? : ServiceCall → Option (Answer → Except RunError Reply)
  | .text _ default => some fun answer => (answer.textOr default).map .text
  | .confirm _ default => some fun answer => (answer.boolOr default).map .decision
  | .select _ choices default => some fun answer => (answer.choiceOr choices default).map .text
  | _ => none

/-- With the answers ahead that come first, the calls are made and the other answers are left.  A
prompt takes one answer and comes to what it makes of it; without an answer it is cancelled. -/
inductive Takes : List Answer → List ServiceEvent → List Answer → Prop where
  | nothing (answers : List Answer) : Takes answers [] answers
  | other {answers left : List Answer} {events : List ServiceEvent} (event : ServiceEvent)
      (hcall : event.call.prompt? = none) (hrest : Takes answers events left) :
      Takes answers (event :: events) left
  | answered {answers left : List Answer} {events : List ServiceEvent} {call : ServiceCall}
      {reading : Answer → Except RunError Reply} (answer : Answer)
      (hcall : call.reading? = some reading) (hrest : Takes answers events left) :
      Takes (answer :: answers) (⟨call, reading answer⟩ :: events) left
  | cancelled {left : List Answer} {events : List ServiceEvent} {call : ServiceCall}
      {message : String} (hcall : call.prompt? = some message) (hrest : Takes [] events left) :
      Takes [] (⟨call, .error (.service .cancelled)⟩ :: events) left

/-- How many of the calls are prompts. -/
def shown (events : List ServiceEvent) : Nat :=
  events.countP fun event => event.call.prompt?.isSome

@[simp] theorem shown_append (first second : List ServiceEvent) :
    shown (first ++ second) = shown first + shown second := List.countP_append

theorem ServiceCall.prompt?_of_reading? {call : ServiceCall}
    {reading : Answer → Except RunError Reply} (hcall : call.reading? = some reading) :
    call.prompt?.isSome = true := by
  cases call <;> first | rfl | cases hcall

namespace Takes

variable {answers between left : List Answer} {events first second : List ServiceEvent}

theorem append (hfirst : Takes answers first between) (hsecond : Takes between second left) :
    Takes answers (first ++ second) left := by
  induction hfirst with
  | nothing => exact hsecond
  | other event hcall _ ih => exact .other event hcall (ih hsecond)
  | answered answer hcall _ ih => exact .answered answer hcall (ih hsecond)
  | cancelled hcall _ ih => exact .cancelled hcall (ih hsecond)

/-- Each prompt takes one answer from the front. -/
theorem left_eq (htakes : Takes answers events left) : left = answers.drop (shown events) := by
  induction htakes with
  | nothing answers => rfl
  | other event hcall _ ih => simpa [shown, hcall] using ih
  | answered answer hcall _ ih =>
      simpa [shown, ServiceCall.prompt?_of_reading? hcall] using ih
  | cancelled hcall _ ih => simpa using ih

end Takes

def RunState.facing (answers : List Answer) (s : RunState ω) : RunState ω :=
  { s with prompter := .script answers }

namespace Run

variable {act : Run ω α} {next : α → Run ω β} {s t : RunState ω}

/-- The action takes the answers that it asks for, and it does not depend on those behind them. -/
def Foresees (act : Run ω α) (s : RunState ω) : Prop :=
  ∀ answers, s.prompter = .script answers → ∃ events left,
    (outcome act s).2.transcript = s.transcript ++ events ∧
    (outcome act s).2.prompter = .script left ∧ Takes answers events left ∧
    (shown events ≤ answers.length → ∀ more, outcome act (s.facing (answers ++ more)) =
      ((outcome act s).1, (outcome act s).2.facing (left ++ more)))

theorem foresees_pure (a : α) : Foresees (pure a) s := by
  intro answers hanswers
  exact ⟨[], answers, by simp, hanswers, .nothing answers, fun _ more => rfl⟩

theorem foresees_throw (e : RunError) : Foresees (throw e : Run ω α) s := by
  intro answers hanswers
  exact ⟨[], answers, by simp, hanswers, .nothing answers, fun _ more => rfl⟩

theorem foresees_orFault (r : Except DocumentError α) : Foresees (orFault r : Run ω α) s := by
  cases r with
  | ok a => exact foresees_pure a
  | error fault => exact foresees_throw _

/-- The change of the state does not depend on the answers, and it makes no call. -/
theorem foresees_modify {f : RunState ω → RunState ω}
    (hf : ∀ prompter, f { s with prompter } = { f s with prompter })
    (htranscript : (f s).transcript = s.transcript) : Foresees (modify f) s := by
  intro answers hanswers
  have hprompter : (f s).prompter = s.prompter := by
    rw [show f s = { f s with prompter := s.prompter } from hf s.prompter]
  refine ⟨[], answers, by simpa using htranscript, hprompter.trans hanswers, .nothing answers,
    fun _ more => ?_⟩
  rw [outcome_modify, outcome_modify, RunState.facing, hf]
  rfl

theorem Foresees.get_bind {next : RunState ω → Run ω β}
    (hsame : ∀ prompter, next { s with prompter } = next s) (hnext : Foresees (next s) s) :
    Foresees (get >>= next) s := by
  intro answers hanswers
  obtain ⟨events, left, htranscript, hprompter, htakes, hmore⟩ := hnext answers hanswers
  refine ⟨events, left, htranscript, hprompter, htakes, fun henough more => ?_⟩
  rw [outcome_get_bind, outcome_get_bind, ← hmore henough more]
  exact congrArg (fun act => outcome act (s.facing (answers ++ more))) (hsame _)

theorem Foresees.bind (hact : Foresees act s)
    (hnext : ∀ a t, outcome act s = (.ok a, t) → Foresees (next a) t) :
    Foresees (act >>= next) s := by
  intro answers hanswers
  obtain ⟨first, between, htranscript, hprompter, htakes, hmore⟩ := hact answers hanswers
  rcases hout : outcome act s with ⟨e | a, t⟩
  · rw [hout] at htranscript hprompter hmore
    refine ⟨first, between, ?_, ?_, htakes, fun henough more => ?_⟩
    · rw [outcome_bind_error hout, htranscript]
    · rw [outcome_bind_error hout, hprompter]
    · rw [outcome_bind_error (hmore henough more), outcome_bind_error hout]
  · rw [hout] at htranscript hprompter hmore
    obtain ⟨second, left, hthen, hleft, htakes', hmore'⟩ := hnext a t hout between hprompter
    refine ⟨first ++ second, left, ?_, ?_, htakes.append htakes', fun henough more => ?_⟩
    · rw [outcome_bind_ok hout, hthen, htranscript, List.append_assoc]
    · rw [outcome_bind_ok hout, hleft]
    · -- What the first action leaves is enough for the second one.
      rw [shown_append] at henough
      have hremain : shown second ≤ between.length := by
        rw [htakes.left_eq, List.length_drop]
        omega
      rw [outcome_bind_ok (hmore (by omega) more), outcome_bind_ok hout]
      exact hmore' hremain more

theorem Foresees.then_pure (hact : Foresees act s) (f : α → β) :
    Foresees (do return f (← act)) s := hact.bind fun a _ _ => foresees_pure (f a)

end Run

namespace Service

variable [Replies α] {s : RunState ω}

theorem foresees_perform {call : ServiceCall} {r : Except RunError α}
    (hcall : call.prompt? = none) : Foresees (perform call r) s := by
  intro answers hanswers
  refine ⟨[⟨call, r.map Replies.reply⟩], answers, ?_, ?_, ?_, fun _ more => ?_⟩
  · simp [RunState.noted]
  · simpa [RunState.noted] using hanswers
  · exact .other _ hcall (.nothing answers)
  · simp [RunState.noted, RunState.facing]

theorem foresees_read [FileTree ω] (path : Path) : Foresees (read path) s :=
  Foresees.get_bind (fun _ => rfl) (foresees_perform rfl)

theorem foresees_fetch (web : Web) (url : String) :
    Foresees (fetch web url : Run ω String) s := foresees_perform rfl

theorem foresees_report (level : LogLevel) (message : String) :
    Foresees (report level message : Run ω Unit) s := foresees_perform rfl

theorem foresees_write [FileTree ω] (path : Path) (content : String) :
    Foresees (write path content) s :=
  Foresees.get_bind (fun _ => rfl)
    ((foresees_modify (fun _ => rfl) rfl).bind fun _ _ _ => foresees_perform rfl)

theorem foresees_append [FileTree ω] (path : Path) (content : String) :
    Foresees (append path content) s :=
  Foresees.get_bind (fun _ => rfl)
    ((foresees_modify (fun _ => rfl) rfl).bind fun _ _ _ => foresees_perform rfl)

/-- A prompt takes one answer from the front. -/
theorem foresees_prompt {call : ServiceCall} {reading : Answer → Except RunError α}
    (hreading : call.reading? = some fun answer => (reading answer).map Replies.reply) :
    Foresees (prompt call reading) s := by
  intro answers hanswers
  have hprompt := ServiceCall.prompt?_of_reading? hreading
  obtain ⟨message, hmessage⟩ := Option.isSome_iff_exists.mp hprompt
  rcases answers with _ | ⟨answer, rest⟩
  · refine ⟨[⟨call, .error (.service .cancelled)⟩], [], ?_, ?_, ?_, fun henough more => ?_⟩
    · simp [RunState.noted, hanswers, Prompter.next, Except.bind, Except.map]
    · simp [RunState.noted, hanswers, Prompter.next]
    · exact .cancelled hmessage (.nothing [])
    · simp [shown, hprompt] at henough
  · refine ⟨[⟨call, (reading answer).map Replies.reply⟩], rest, ?_, ?_, ?_, fun _ more => ?_⟩
    · simp [RunState.noted, hanswers, Prompter.next, Except.bind]
    · simp [RunState.noted, hanswers, Prompter.next]
    · exact .answered answer hreading (.nothing rest)
    · simp [RunState.noted, RunState.facing, hanswers, Prompter.next, Except.bind]

theorem foresees_text (message : String) (default : Option String) :
    Foresees (text message default : Run ω String) s := foresees_prompt rfl

theorem foresees_confirm (message : String) (default : Bool) :
    Foresees (confirm message default : Run ω Bool) s := foresees_prompt rfl

theorem foresees_select (message : String) (choices : List (String × String))
    (default : Option String) :
    Foresees (select message choices default : Run ω String) s := foresees_prompt rfl

end Service

namespace Destination

variable {message : String} {default : Option String}
  {problem? : RunState ω → String → Option String} {s : RunState ω}

theorem foresees_askOnce
    (hproblem : ∀ s prompter, problem? { s with prompter } = problem? s) :
    Foresees (askOnce message default problem?) s := by
  refine (Service.foresees_text message default).bind fun raw t _ => ?_
  dsimp only
  split
  · exact (Service.foresees_report _ _).then_pure _
  · refine Foresees.get_bind (fun prompter => by rw [hproblem]) ?_
    split
    · exact foresees_pure _
    · exact (Service.foresees_report _ _).then_pure _

theorem foresees_askName
    (hproblem : ∀ s prompter, problem? { s with prompter } = problem? s) (bound : Nat) :
    Foresees (askName message default problem? bound) s := by
  induction bound generalizing s with
  | zero => exact foresees_throw _
  | succ bound ih =>
      rw [askName_succ]
      refine (foresees_askOnce hproblem).bind fun name? t _ => ?_
      cases name? with
      | some name => exact foresees_pure name
      | none => exact ih

/-- The bound does not matter while it is greater than the number of answers. -/
theorem outcome_askName_congr {bound other : Nat} (hbound : s.prompter.remaining < bound)
    (hother : s.prompter.remaining < other) :
    outcome (askName message default problem? bound) s =
      outcome (askName message default problem? other) s := by
  induction bound generalizing other s with
  | zero => omega
  | succ bound ih =>
      obtain ⟨below, rfl⟩ : ∃ below, other = below + 1 := ⟨other - 1, by omega⟩
      rw [askName_succ, askName_succ, outcome_bind, outcome_bind]
      rcases hround : outcome (askOnce message default problem?) s with ⟨e | name?, t⟩
      · rfl
      · cases name? with
        | some name => rfl
        | none =>
            have hleft := (outcome_askOnce_eq hround).2 rfl
            exact ih (by omega) (by omega)

/-- More answers allow for more prompts, but those that are shown do not depend on it. -/
theorem foresees_promptName
    (hproblem : ∀ s prompter, problem? { s with prompter } = problem? s) :
    Foresees (promptName message default problem?) s := by
  intro answers hanswers
  have hremaining : s.prompter.remaining = answers.length := by rw [hanswers]; rfl
  have hforesees (bound : Nat) : Foresees (askName message default problem? bound) s :=
    foresees_askName hproblem bound
  obtain ⟨events, left, htranscript, hprompter, htakes, -⟩ :=
    hforesees (answers.length + 1) answers hanswers
  rw [promptName, outcome_get_bind, hremaining]
  refine ⟨events, left, htranscript, hprompter, htakes, fun henough more => ?_⟩
  have hsame : outcome (askName message default problem? (answers.length + 1)) s =
      outcome (askName message default problem? ((answers ++ more).length + 1)) s :=
    outcome_askName_congr (by omega) (by simp; omega)
  obtain ⟨events', left', htranscript', hprompter', -, hmore⟩ :=
    hforesees ((answers ++ more).length + 1) answers hanswers
  rw [← hsame] at htranscript' hprompter' hmore
  obtain rfl : events = events' := List.append_cancel_left (htranscript.symm.trans htranscript')
  obtain rfl : left = left' := Prompter.script.inj (hprompter.symm.trans hprompter')
  rw [outcome_get_bind]
  exact hmore henough more

theorem foresees_addAsked (path : Path) (ask : AskDirective) (wantsFile : Bool) :
    Foresees (addAsked path ask wantsFile : Run ω Path) s := by
  refine Foresees.get_bind (fun _ => rfl) ?_
  dsimp only
  split
  · exact foresees_pure _
  · exact (foresees_promptName fun _ _ => rfl).then_pure _

theorem foresees_addSegment (path : Path) (wantsFile : Bool) (segment : Segment) :
    Foresees (addSegment path wantsFile segment : Run ω Path) s := by
  cases segment with
  | literal text => exact foresees_pure _
  | ask directive => exact foresees_addAsked path directive wantsFile
  | reference ref =>
      refine Foresees.get_bind (fun _ => rfl) ?_
      split
      · split
        · exact foresees_addAsked path _ wantsFile
        · exact foresees_pure _
      · exact (Service.foresees_report _ _).then_pure _

theorem foresees_addSegments (wantsFile : Bool) (path : Path) (segments : List Segment) :
    Foresees (addSegments wantsFile path segments : Run ω Path) s := by
  induction segments generalizing path s with
  | nil => exact foresees_pure _
  | cons segment rest ih =>
      rw [addSegments_cons]
      exact (foresees_addSegment path _ segment).bind fun longer _ _ => ih longer

variable [FileTree ω]

theorem foresees_build (template : PathTemplate) (ignoreExisting : Bool) :
    Foresees (build template ignoreExisting : Run ω Path) s :=
  Foresees.get_bind (fun _ => rfl) (foresees_addSegments _ _ _)

theorem foresees_arbitrate (path : Path) :
    Foresees (arbitrate path : Run ω Destination) s := by
  refine (Service.foresees_select _ _ _).bind fun choice _ _ => ?_
  split
  · exact foresees_pure _
  · exact (foresees_promptName fun _ _ => rfl).then_pure _
  · exact foresees_pure _

theorem foresees_resolve (base : Option Path) (name : String) (ignoreExisting : Bool) :
    Foresees (resolve base name ignoreExisting : Run ω Destination) s := by
  refine (foresees_build _ _).bind fun path _ _ => Foresees.get_bind (fun _ => rfl) ?_
  split
  · exact foresees_pure _
  · exact foresees_arbitrate path

end Destination

namespace Job

variable {s : RunState ω}

theorem foresees_isConfirmed (confirm : Option String) :
    Foresees (isConfirmed confirm : Run ω Bool) s := by
  cases confirm with
  | none => exact foresees_pure _
  | some text => exact (Service.foresees_confirm _ _).then_pure _

theorem foresees_shouldRun (gate : Gate) : Foresees (shouldRun gate : Run ω Bool) s := by
  refine Foresees.get_bind (fun _ => rfl) ?_
  split
  · exact foresees_pure _
  · refine Foresees.bind ?_ fun holds t _ => ?_
    · cases gate.when with
      | none => exact foresees_pure _
      | some expression => exact Foresees.get_bind (fun _ => rfl) (foresees_orFault _)
    · split
      · exact foresees_pure _
      · exact foresees_isConfirmed gate.confirm

theorem finish_prompter (id : String) (s : RunState ω) (prompter : Prompter) :
    finish id { s with prompter } = { finish id s with prompter } := by
  unfold finish
  dsimp only
  split <;> split <;> simp_all [RunState.complete, RunState.set]

theorem foresees_gated {gate : Gate} {act : Run ω Unit} (hact : ∀ t, Foresees act t) :
    Foresees (gated gate act) s := by
  refine (foresees_shouldRun gate).bind fun runs t _ => ?_
  split
  · refine (hact t).bind fun _ u _ => ?_
    split
    · exact foresees_modify (finish_prompter _ u) (transcript_finish _ u)
    · exact foresees_pure _
  · exact foresees_pure _

theorem foresees_askQuestion (q : Question) : Foresees (askQuestion q : Run ω String) s := by
  unfold askQuestion
  split
  · exact (Service.foresees_text _ _).then_pure _
  · exact (Service.foresees_confirm _ _).then_pure _
  · exact Service.foresees_select _ _ _

theorem foresees_answerQuestion (id : Option String) (q : Question) :
    Foresees (answerQuestion id q : Run ω Unit) s := by
  cases id with
  | none => exact foresees_throw _
  | some id =>
      refine Foresees.get_bind (fun _ => rfl) ?_
      split
      · exact foresees_pure _
      · exact (foresees_askQuestion q).bind fun _ _ _ => foresees_modify (fun _ => rfl) rfl

variable [FileTree ω]

theorem foresees_loadContent (web : Web) (content : String) :
    Foresees (loadContent web content : Run ω String) s := by
  unfold loadContent
  split
  · exact foresees_pure _
  · split
    · exact Service.foresees_fetch web content
    · refine Foresees.get_bind (fun _ => rfl) ?_
      split
      · exact Service.foresees_read _
      · exact foresees_pure _

theorem foresees_applyWrite (web : Web) (path : Path) (write : FileWrite) :
    Foresees (applyWrite web path write : Run ω Unit) s := by
  cases write with
  | overwrite content =>
      exact (foresees_loadContent web content).bind fun _ _ _ => Service.foresees_write path _
  | append content =>
      exact (foresees_loadContent web content).bind fun _ _ _ => Service.foresees_append path _
  | replace pairs =>
      refine (Service.foresees_read path).bind fun text t _ => ?_
      refine Foresees.get_bind (fun _ => rfl) ?_
      exact (foresees_orFault _).bind fun _ _ _ => Service.foresees_write path _

theorem foresees_writeFile (around : Surroundings) (base : Option Path) (job : FileJob) :
    Foresees (writeFile around base job : Run ω Unit) s := by
  refine (Destination.foresees_resolve _ _ _).bind fun destination _ _ => ?_
  cases destination with
  | skip => exact Service.foresees_report _ _
  | path path =>
      exact (foresees_applyWrite around.web path job.write).bind fun _ _ _ =>
        Service.foresees_report _ _

theorem foresees_groupBase (frame : Frame) (base : Option String) :
    Foresees (groupBase frame base : Run ω (Option Path)) s := by
  cases base with
  | none => exact foresees_pure _
  | some name =>
      refine (Destination.foresees_resolve _ _ _).bind fun destination _ _ => ?_
      cases destination <;> exact foresees_pure _

variable {around : Surroundings} {enter : Frame → String → Run ω Unit}

theorem foresees_runTask (henter : ∀ frame target t, Foresees (enter frame target) t)
    (frame : Frame) (id : Option String) (task : Task) :
    Foresees (runTask around enter frame id task) s := by
  cases task with
  | file job => exact foresees_writeFile around frame.base job
  | question q => exact foresees_answerQuestion id q
  | registryDependencies names => exact foresees_modify (fun _ => rfl) rfl
  | dependencies names => exact foresees_modify (fun _ => rfl) rfl
  | run target => exact henter frame target s
  | log level message => exact Service.foresees_report level message

mutual
theorem foresees_exec (henter : ∀ frame target t, Foresees (enter frame target) t)
    (frame : Frame) (job : Job) (s : RunState ω) : Foresees (exec around enter frame job) s := by
  match job with
  | .task gate action =>
      rw [exec]
      exact foresees_gated fun t => foresees_runTask henter frame gate.id action
  | .group gate base jobs =>
      rw [exec]
      exact foresees_gated fun t => (foresees_groupBase frame base).bind fun inside u _ =>
        foresees_execAll henter (frame.withBase inside) jobs u

theorem foresees_execAll (henter : ∀ frame target t, Foresees (enter frame target) t)
    (frame : Frame) (jobs : List Job) (s : RunState ω) :
    Foresees (execAll around enter frame jobs) s := by
  match jobs with
  | [] =>
      rw [execAll]
      exact foresees_pure ()
  | job :: rest =>
      rw [execAll]
      exact (foresees_exec henter frame job s).bind fun _ t _ =>
        foresees_execAll henter frame rest t
end

theorem foresees_invoke (around : Surroundings) (bound : Nat) (frame : Frame) (target : String)
    (s : RunState ω) : Foresees (invoke around bound frame target) s := by
  induction bound generalizing frame target s with
  | zero =>
      rw [invoke]
      split
      · exact foresees_throw _
      · exact (foresees_orFault _).bind fun _ _ _ => foresees_throw _
  | succ bound ih =>
      rw [invoke]
      split
      · exact foresees_throw _
      · exact (foresees_orFault _).bind fun inner t _ => foresees_exec ih inner _ t

theorem foresees_runAll (around : Surroundings) (frame : Frame) (jobs : List Job)
    (s : RunState ω) : Foresees (runAll around frame jobs) s :=
  foresees_execAll (foresees_invoke around _) frame jobs s

end Job

namespace Document

variable [FileTree ω] {s : RunState ω}

theorem foresees_obtain (web : Web) (source : DocumentSource) :
    Foresees (obtain web source : Run ω Document) s := by
  cases source with
  | remote url =>
      refine (Service.foresees_fetch web url).bind fun body t _ => ?_
      split
      · exact foresees_throw _
      · exact foresees_orFault _
  | «local» path =>
      exact (Service.foresees_read path).bind fun text t _ => foresees_orFault _

variable {load : DocumentSource → Run ω Unit}

omit [FileTree ω] in
theorem foresees_follow (hload : ∀ source t, Foresees (load source) t) (entry : Dependency) :
    Foresees (follow load entry) s := by
  unfold follow
  split
  · refine Foresees.get_bind (fun _ => rfl) ?_
    split
    · exact (foresees_modify (fun _ => rfl) rfl).bind fun _ t _ => hload _ t
    · exact foresees_pure _
  · exact foresees_modify (fun _ => rfl) rfl

omit [FileTree ω] in
theorem foresees_followAll (hload : ∀ source t, Foresees (load source) t)
    (entries : List Dependency) : Foresees (followAll load entries) s := by
  induction entries generalizing s with
  | nil => exact foresees_pure ()
  | cons entry rest ih => exact (foresees_follow hload entry).bind fun _ _ _ => ih

theorem foresees_load (around : Surroundings) (base : Option Path) (bound : Nat)
    (source : DocumentSource) (s : RunState ω) :
    Foresees (Document.load around base bound source) s := by
  induction bound generalizing source s with
  | zero => exact foresees_throw _
  | succ bound ih =>
      refine (foresees_obtain around.web source).bind fun document t _ => ?_
      refine (Job.foresees_runAll around _ document.jobs t).bind fun _ u _ => ?_
      refine (foresees_followAll ih document.dependencies).bind fun _ v _ => ?_
      exact foresees_modify (fun _ => rfl) rfl

theorem foresees_loadRoot (around : Surroundings) (extend : Option String) (text : String)
    (s : RunState ω) : Foresees (loadRoot around extend text) s := by
  refine (foresees_modify (fun _ => rfl) rfl).bind fun _ t _ => ?_
  refine Foresees.bind ?_ fun base u _ => foresees_load around base _ _ u
  cases extend with
  | none => exact foresees_pure _
  | some name =>
      refine (Destination.foresees_resolve _ _ _).bind fun destination _ _ => ?_
      cases destination <;> exact foresees_pure _

end Document

namespace Session

variable [Repository ω] {s : RunState ω}

theorem foresees_loadStore : Foresees (loadStore : Run ω VariableTable) s :=
  Foresees.get_bind (fun _ => rfl) (Service.foresees_perform rfl)

theorem foresees_saveStore (table : VariableTable) :
    Foresees (saveStore table : Run ω Unit) s :=
  Foresees.get_bind (fun _ => rfl)
    ((foresees_modify (fun _ => rfl) rfl).bind fun _ _ _ => Service.foresees_perform rfl)

theorem foresees_close : Foresees (close : Run ω RunSummary) s := by
  refine Foresees.get_bind (fun _ => rfl) ?_
  dsimp only
  split
  · exact (foresees_saveStore _).bind fun _ t _ =>
      Foresees.get_bind (fun _ => rfl) (foresees_pure _)
  · exact Foresees.get_bind (fun _ => rfl) (foresees_pure _)

theorem foresees_run [FileTree ω] (web : Web) (options : RunOptions) (source : String)
    (s : RunState ω) : Foresees (run web options source) s := by
  refine foresees_loadStore.bind fun store t _ => ?_
  refine (foresees_modify (fun _ => rfl) rfl).bind fun _ u _ => ?_
  exact (Document.foresees_loadRoot _ _ source u).bind fun _ _ _ => foresees_close

/-- A session, and a list of jobs, take one answer for each prompt, in order and from the front, and
none when there is none.  If all prompts have been answered, the same is done with more answers
behind them, and these are left. -/
theorem unused_answers_do_not_matter [FileTree ω] :
    (∀ (web : Web) (options : RunOptions) (source : String) (files : ω) (answers : List Answer),
      let run := runFrom web options (.script answers) source files
      let left := answers.drop (shown run.2.transcript)
      Takes answers run.2.transcript left ∧ run.2.prompter = .script left ∧
      (shown run.2.transcript ≤ answers.length → ∀ more,
        runFrom web options (.script (answers ++ more)) source files =
          (run.1, run.2.facing (left ++ more)))) ∧
    ∀ (around : Surroundings) (frame : Frame) (jobs : List Job) (s : RunState ω)
      (answers : List Answer),
      let run := outcome (Job.runAll around frame jobs) (s.facing answers)
      ∃ events, run.2.transcript = s.transcript ++ events ∧
        let left := answers.drop (shown events)
        Takes answers events left ∧ run.2.prompter = .script left ∧
        (shown events ≤ answers.length → ∀ more,
          outcome (Job.runAll around frame jobs) (s.facing (answers ++ more)) =
            (run.1, run.2.facing (left ++ more))) := by
  constructor
  · intro web options source files answers
    obtain ⟨events, left, htranscript, hprompter, htakes, hmore⟩ :=
      foresees_run web options source (RunState.start (.withStore .empty) files (.script answers))
        answers rfl
    obtain rfl := htakes.left_eq
    have hevents : (runFrom web options (.script answers) source files).2.transcript = events :=
      htranscript
    intro run left
    simp only [left, run, hevents]
    exact ⟨htakes, hprompter, hmore⟩
  · intro around frame jobs s answers
    obtain ⟨events, left, htranscript, hprompter, htakes, hmore⟩ :=
      Job.foresees_runAll around frame jobs (s.facing answers) answers rfl
    obtain rfl := htakes.left_eq
    exact ⟨events, htranscript, htakes, hprompter, hmore⟩

/-- The one question is answered, and the other answer is left. -/
theorem unused_answers_do_not_matter_author :
    shown authorFirst.run.2.transcript ≤ 1 ∧
      runFrom ⟨[]⟩ ⟨false, none⟩ (.script [.text "Ada", .confirm true]) "author.json"
        authorFirst.files =
        (authorFirst.run.1, authorFirst.run.2.facing [.confirm true]) := by
  have hshown : shown authorFirst.run.2.transcript = 1 := run_authorFirst.2
  have hunused := (unused_answers_do_not_matter (ω := Workplace MemoryFiles)).1 ⟨[]⟩
    ⟨false, none⟩ "author.json" authorFirst.files [.text "Ada"]
  refine ⟨hshown.le, ?_⟩
  have hsame := hunused.2.2 hshown.le [.confirm true]
  rw [show runFrom ⟨[]⟩ ⟨false, none⟩ (.script [.text "Ada"]) "author.json" authorFirst.files =
    authorFirst.run from rfl, hshown] at hsame
  exact hsame

end Session
end Scaffold
