import Scaffold.Proofs.Outcome

/-!
# Actions that only make calls

Resolving names, passing a gate and loading contents change nothing but the answers ahead and the
transcript.  They fail with the error of their last call, and no call is made after one that failed.
-/

namespace Scaffold

variable {ω α β : Type}

def ServiceCall.target? : ServiceCall → Option Path
  | .write path _ => some path
  | .append path _ => some path
  | _ => none

def ServiceCall.changesFiles (call : ServiceCall) : Bool := call.target?.isSome

def ServiceEvent.Succeeded (event : ServiceEvent) : Prop := ∃ reply, event.outcome = .ok reply

/-- The result follows from the calls: all succeeded, or the last one failed with an error that is
allowed and is the result. -/
def Explained (allowed : RunError → Prop) (events : List ServiceEvent) :
    Except RunError α → Prop
  | .ok _ => ∀ event ∈ events, event.Succeeded
  | .error e => allowed e ∧ ∃ front call,
      events = front ++ [⟨call, .error e⟩] ∧ ∀ event ∈ front, event.Succeeded

theorem Explained.append {allowed : RunError → Prop} {first second : List ServiceEvent}
    {r : Except RunError α} (hfirst : ∀ event ∈ first, event.Succeeded)
    (hsecond : Explained allowed second r) : Explained allowed (first ++ second) r := by
  cases r with
  | ok a =>
      intro event hevent
      rcases List.mem_append.mp hevent with hmem | hmem
      · exact hfirst event hmem
      · exact hsecond event hmem
  | error e =>
      obtain ⟨hallowed, front, call, rfl, hfront⟩ := hsecond
      refine ⟨hallowed, first ++ front, call, by simp, fun event hevent => ?_⟩
      rcases List.mem_append.mp hevent with hmem | hmem
      · exact hfirst event hmem
      · exact hfront event hmem

theorem explained_single [Replies α] {allowed : RunError → Prop} {call : ServiceCall}
    {r : Except RunError α} (herror : ∀ e, r = .error e → allowed e) :
    Explained allowed [⟨call, r.map Replies.reply⟩] r := by
  cases r with
  | ok a => simp [Explained, ServiceEvent.Succeeded, Except.map]
  | error e => exact ⟨herror e rfl, [], call, by simp [Except.map], by simp⟩

/-- The errors in which the services of a run may end. -/
structure Ports (web : Web) (ω : Type) [FileTree ω] (allowed : RunError → Prop) : Prop where
  read : ∀ (files : ω) path e, FileTree.read files path = .error e → allowed e
  write : ∀ (files : ω) path content e,
    (FileTree.write path content files).1 = .error e → allowed e
  append : ∀ (files : ω) path content e,
    (FileTree.append path content files).1 = .error e → allowed e
  fetch : ∀ url e, web.fetch url = .error e → allowed e
  cancelled : allowed (.service .cancelled)
  noTerminal : allowed (.internal "terminal prompt failed: not a terminal")

theorem Ports.any (web : Web) (ω : Type) [FileTree ω] : Ports web ω fun _ => True := by
  constructor <;> intros <;> trivial

def RunState.QuietTo (s t : RunState ω) : Prop :=
  ∃ events prompter, t = { s with prompter, transcript := s.transcript ++ events } ∧
    ∀ event ∈ events, event.call.changesFiles = false

namespace RunState.QuietTo

variable {s t u : RunState ω}

theorem refl : s.QuietTo s := ⟨[], s.prompter, by simp, by simp⟩

theorem trans (hfirst : s.QuietTo t) (hsecond : t.QuietTo u) : s.QuietTo u := by
  obtain ⟨first, _, rfl, hfront⟩ := hfirst
  obtain ⟨second, prompter, rfl, hback⟩ := hsecond
  refine ⟨first ++ second, prompter, by simp, fun event hevent => ?_⟩
  rcases List.mem_append.mp hevent with hmem | hmem
  · exact hfront event hmem
  · exact hback event hmem

theorem vars (hquiet : s.QuietTo t) : t.vars = s.vars := by
  obtain ⟨events, prompter, rfl, -⟩ := hquiet
  rfl

theorem pending (hquiet : s.QuietTo t) : t.pending = s.pending := by
  obtain ⟨events, prompter, rfl, -⟩ := hquiet
  rfl

theorem visited (hquiet : s.QuietTo t) : t.visited = s.visited := by
  obtain ⟨events, prompter, rfl, -⟩ := hquiet
  rfl

theorem completed (hquiet : s.QuietTo t) : t.completed = s.completed := by
  obtain ⟨events, prompter, rfl, -⟩ := hquiet
  rfl

theorem files (hquiet : s.QuietTo t) : t.files = s.files := by
  obtain ⟨events, prompter, rfl, -⟩ := hquiet
  rfl

end RunState.QuietTo

namespace Run

variable {allowed : RunError → Prop} {act : Run ω α} {next : α → Run ω β} {s : RunState ω}

/-- The action fails only with the error of its last call. -/
def FailsByCall (allowed : RunError → Prop) (act : Run ω α) (s : RunState ω) : Prop :=
  ∃ events, (outcome act s).2.transcript = s.transcript ++ events ∧
    Explained allowed events (outcome act s).1

/-- The action leaves all as it is but the answers ahead and the transcript. -/
def Quiet (act : Run ω α) (s : RunState ω) : Prop := s.QuietTo (outcome act s).2

/-- The action does no more than to make calls. -/
structure Asks (allowed : RunError → Prop) (act : Run ω α) (s : RunState ω) : Prop where
  fails : FailsByCall allowed act s
  quiet : Quiet act s

theorem failsByCall_pure (a : α) : FailsByCall allowed (pure a) s :=
  ⟨[], by simp, by simp [Explained]⟩

theorem quiet_pure (a : α) : Quiet (pure a) s := RunState.QuietTo.refl

theorem quiet_throw (e : RunError) : Quiet (throw e : Run ω α) s := RunState.QuietTo.refl

theorem asks_pure (a : α) : Asks allowed (pure a) s := ⟨failsByCall_pure a, quiet_pure a⟩

theorem FailsByCall.bind (hact : FailsByCall allowed act s)
    (hnext : ∀ a t, outcome act s = (.ok a, t) → FailsByCall allowed (next a) t) :
    FailsByCall allowed (act >>= next) s := by
  obtain ⟨first, htranscript, hexplained⟩ := hact
  rcases hout : outcome act s with ⟨a | a, t⟩
  · rw [hout] at htranscript hexplained
    exact ⟨first, by rw [outcome_bind_error hout, htranscript],
      by rw [outcome_bind_error hout]; exact hexplained⟩
  · rw [hout] at htranscript hexplained
    obtain ⟨second, hthen, hresult⟩ := hnext a t hout
    refine ⟨first ++ second, ?_, ?_⟩
    · rw [outcome_bind_ok hout, hthen, htranscript, List.append_assoc]
    · rw [outcome_bind_ok hout]
      exact hresult.append hexplained

theorem Quiet.quietTo {r : Except RunError α} {t : RunState ω} (hact : Quiet act s)
    (hout : outcome act s = (r, t)) : s.QuietTo t := by
  rw [Quiet, hout] at hact
  exact hact

theorem Quiet.bind (hact : Quiet act s)
    (hnext : ∀ a t, outcome act s = (.ok a, t) → Quiet (next a) t) :
    Quiet (act >>= next) s := by
  refine state_bind s.QuietTo (fun e t hout => ?_) fun a t hout => ?_
  · exact hact.quietTo hout
  · exact (hact.quietTo hout).trans (hnext a t hout)

theorem Asks.bind (hact : Asks allowed act s)
    (hnext : ∀ a t, outcome act s = (.ok a, t) → Asks allowed (next a) t) :
    Asks allowed (act >>= next) s :=
  ⟨hact.fails.bind fun a t hout => (hnext a t hout).fails,
    hact.quiet.bind fun a t hout => (hnext a t hout).quiet⟩

theorem Asks.get_bind {next : RunState ω → Run ω β} (hnext : Asks allowed (next s) s) :
    Asks allowed (get >>= next) s := ⟨hnext.fails, hnext.quiet⟩

theorem FailsByCall.get_bind {next : RunState ω → Run ω β}
    (hnext : FailsByCall allowed (next s) s) : FailsByCall allowed (get >>= next) s := hnext

theorem Quiet.get_bind {next : RunState ω → Run ω β} (hnext : Quiet (next s) s) :
    Quiet (get >>= next) s := hnext

theorem quiet_orFault (r : Except DocumentError α) : Quiet (orFault r : Run ω α) s := by
  rw [Quiet, outcome_orFault]
  exact RunState.QuietTo.refl

end Run

namespace Service

open Run

variable {allowed : RunError → Prop} {s : RunState ω} [Replies α]

theorem asks_perform {call : ServiceCall} {r : Except RunError α}
    (hcall : call.changesFiles = false) (herror : ∀ e, r = .error e → allowed e) :
    Asks allowed (perform call r) s := by
  constructor
  · exact ⟨[⟨call, r.map Replies.reply⟩], by simp [RunState.noted],
      by simpa using explained_single herror⟩
  · exact ⟨[⟨call, r.map Replies.reply⟩], s.prompter, by simp [RunState.noted],
      by simpa using hcall⟩

theorem asks_read [FileTree ω] {web : Web} (hports : Ports web ω allowed) (path : Path) :
    Asks allowed (read path) s :=
  Asks.get_bind (asks_perform rfl fun e => hports.read s.files path e)

theorem asks_fetch [FileTree ω] {web : Web} (hports : Ports web ω allowed) (url : String) :
    Asks allowed (fetch web url : Run ω String) s :=
  asks_perform rfl fun e => hports.fetch url e

theorem asks_report (level : LogLevel) (message : String) :
    Asks allowed (report level message : Run ω Unit) s :=
  asks_perform rfl (by simp)

theorem quiet_read [FileTree ω] (path : Path) : Quiet (read path : Run ω String) s :=
  (asks_read (Ports.any ⟨[]⟩ ω) path).quiet

theorem quiet_report (level : LogLevel) (message : String) :
    Quiet (report level message : Run ω Unit) s := by
  have hasks : Asks (fun _ => True) (report level message : Run ω Unit) s :=
    asks_report level message
  exact hasks.quiet

/-- A prompt fails when there is no answer, no terminal, or an answer of another kind. -/
theorem asks_prompt [FileTree ω] {web : Web} (hports : Ports web ω allowed) {call : ServiceCall}
    {reading : Answer → Except RunError α} (hcall : call.changesFiles = false)
    (hreading : ∀ answer e, reading answer = .error e → e = .service .cancelled) :
    Asks allowed (prompt call reading : Run ω α) s := by
  have herror : ∀ e, s.prompter.next.1.bind reading = .error e → allowed e := by
    intro e he
    rcases hprompter : s.prompter with answers | _
    · rcases answers with _ | ⟨answer, rest⟩
      · obtain rfl : RunError.service .cancelled = e := by
          simpa [hprompter, Prompter.next, Except.bind] using he
        exact hports.cancelled
      · obtain rfl := hreading answer e (by
          simpa [hprompter, Prompter.next, Except.bind] using he)
        exact hports.cancelled
    · obtain rfl : RunError.internal _ = e := by
        simpa [hprompter, Prompter.next, Except.bind] using he
      exact hports.noTerminal
  constructor
  · exact ⟨[⟨call, (s.prompter.next.1.bind reading).map Replies.reply⟩],
      by simp [RunState.noted], by simpa using explained_single herror⟩
  · exact ⟨[⟨call, (s.prompter.next.1.bind reading).map Replies.reply⟩], s.prompter.next.2,
      by simp [RunState.noted], by simpa using hcall⟩

section Prompts

variable [FileTree ω] {web : Web}

theorem asks_text (hports : Ports web ω allowed) (message : String) (default : Option String) :
    Asks allowed (text message default : Run ω String) s := by
  refine asks_prompt hports rfl fun answer e he => ?_
  cases answer <;> simp_all [Answer.textOr]

theorem asks_confirm (hports : Ports web ω allowed) (message : String) (default : Bool) :
    Asks allowed (confirm message default : Run ω Bool) s := by
  refine asks_prompt hports rfl fun answer e he => ?_
  cases answer <;> simp_all [Answer.boolOr]

theorem asks_select (hports : Ports web ω allowed) (message : String)
    (choices : List (String × String)) (default : Option String) :
    Asks allowed (select message choices default : Run ω String) s := by
  refine asks_prompt hports rfl fun answer e he => ?_
  unfold Answer.choiceOr at he
  grind

end Prompts

theorem remaining_of_text {t : RunState ω} {message raw : String} {default : Option String}
    (hout : outcome (text message default) s = (.ok raw, t)) :
    t.prompter.remaining + 1 = s.prompter.remaining := by
  rw [text, outcome_prompt] at hout
  obtain ⟨hresult, rfl⟩ := Prod.mk.inj hout
  rcases hnext : s.prompter.next.1 with e | answer
  · simp [hnext, Except.bind] at hresult
  · exact Prompter.remaining_next hnext

end Service
end Scaffold
