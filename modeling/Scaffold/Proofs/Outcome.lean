import Scaffold.Run.Traversal

/-!
# Outcomes of actions

An action of a run takes a state to a result and a state.  The equations below open the actions from
which all others are put together; the files, the answers and the transcript change in a call alone.
-/

namespace Scaffold

variable {ω α β : Type}

/-- What an action comes to from a state: its result, and the state that it leaves. -/
def Run.outcome (act : Run ω α) (s : RunState ω) : Except RunError α × RunState ω :=
  act.run.run s

namespace Run

@[simp] theorem outcome_pure (a : α) (s : RunState ω) :
    outcome (pure a) s = (.ok a, s) := rfl

theorem outcome_pure_eq_ok_iff {a b : α} {s t : RunState ω} :
    outcome (pure a) s = (.ok b, t) ↔ a = b ∧ s = t := by simp

@[simp] theorem outcome_throw (e : RunError) (s : RunState ω) :
    outcome (throw e : Run ω α) s = (.error e, s) := rfl

@[simp] theorem outcome_modify (f : RunState ω → RunState ω) (s : RunState ω) :
    outcome (modify f) s = (.ok (), f s) := rfl

theorem outcome_bind (act : Run ω α) (next : α → Run ω β) (s : RunState ω) :
    outcome (act >>= next) s =
      match outcome act s with
      | (.ok a, t) => outcome (next a) t
      | (.error e, t) => (.error e, t) := by
  simp only [outcome, ExceptT.run_bind, StateT.run_bind]
  rcases (ExceptT.run act).run s with ⟨a | e, t⟩ <;> rfl

theorem outcome_bind_ok {act : Run ω α} {s t : RunState ω} {a : α}
    (hact : outcome act s = (.ok a, t)) (next : α → Run ω β) :
    outcome (act >>= next) s = outcome (next a) t := by
  rw [outcome_bind, hact]

theorem outcome_bind_error {act : Run ω α} {s t : RunState ω} {e : RunError}
    (hact : outcome act s = (.error e, t)) (next : α → Run ω β) :
    outcome (act >>= next) s = (.error e, t) := by
  rw [outcome_bind, hact]

theorem outcome_bind_eq_ok_iff {act : Run ω α} {next : α → Run ω β} {s t : RunState ω}
    {b : β} : outcome (act >>= next) s = (.ok b, t) ↔
      ∃ a u, outcome act s = (.ok a, u) ∧ outcome (next a) u = (.ok b, t) := by
  rw [outcome_bind]
  rcases outcome act s with ⟨e | a, u⟩
  · simp
  · constructor
    · exact fun hnext => ⟨a, u, rfl, hnext⟩
    · rintro ⟨a, u, ⟨⟩, hnext⟩
      exact hnext

theorem eq_nil_of_then_nil {act : Run ω α} {s t : RunState ω} {more : List β}
    (hout : outcome (do let _ ← act; return []) s = (.ok more, t)) : more = [] := by
  obtain ⟨_, u, -, hnil⟩ := outcome_bind_eq_ok_iff.mp hout
  exact (outcome_pure_eq_ok_iff.mp hnil).1.symm

/-- What holds of the state in which the first action fails, and of the one in which the second ends,
holds of the state in which both in a row end. -/
theorem state_bind {act : Run ω α} {next : α → Run ω β} {s : RunState ω}
    (motive : RunState ω → Prop)
    (herror : ∀ e t, outcome act s = (.error e, t) → motive t)
    (hok : ∀ a t, outcome act s = (.ok a, t) → motive (outcome (next a) t).2) :
    motive (outcome (act >>= next) s).2 := by
  rcases hout : outcome act s with ⟨e | a, t⟩
  · rw [outcome_bind_error hout]
    exact herror e t hout
  · rw [outcome_bind_ok hout]
    exact hok a t hout

theorem outcome_map (f : α → β) (act : Run ω α) (s : RunState ω) :
    outcome (f <$> act) s = ((outcome act s).1.map f, (outcome act s).2) := by
  rw [← bind_pure_comp, outcome_bind]
  rcases outcome act s with ⟨e | a, t⟩ <;> rfl

theorem eq_of_outcome {act other : Run ω α} (hsame : ∀ s, outcome act s = outcome other s) :
    act = other := funext hsame

theorem outcome_return_snd (act : Run ω α) (b : β) (s : RunState ω) :
    (outcome (do let _ ← act; return b) s).2 = (outcome act s).2 := by
  refine state_bind (· = (outcome act s).2) (fun e t hout => ?_) fun a t hout => ?_
  · rw [hout]
  · rw [hout, outcome_pure]

@[simp] theorem outcome_get_bind (next : RunState ω → Run ω β) (s : RunState ω) :
    outcome (get >>= next) s = outcome (next s) s := rfl

@[simp] theorem outcome_modify_bind (f : RunState ω → RunState ω) (next : Unit → Run ω β)
    (s : RunState ω) : outcome (modify f >>= next) s = outcome (next ()) (f s) := rfl

@[simp] theorem outcome_orFault (r : Except DocumentError α) (s : RunState ω) :
    outcome (orFault r) s = (r.mapError .document, s) := by
  cases r <;> rfl

end Run

namespace RunState

def noted (call : ServiceCall) (outcome : Except RunError Reply) (s : RunState ω) :
    RunState ω :=
  { s with transcript := s.transcript ++ [⟨call, outcome⟩] }

end RunState

namespace Service

open Run

variable [Replies α]

@[simp] theorem outcome_perform (call : ServiceCall) (r : Except RunError α)
    (s : RunState ω) :
    outcome (perform call r) s = (r, s.noted call (r.map Replies.reply)) := by
  cases r <;> rfl

@[simp] theorem outcome_read [FileTree ω] (path : Path) (s : RunState ω) :
    outcome (read path) s =
      (FileTree.read s.files path,
        s.noted (.read path) ((FileTree.read s.files path).map Replies.reply)) := by
  simp [read]

@[simp] theorem outcome_write [FileTree ω] (path : Path) (content : String)
    (s : RunState ω) :
    outcome (write path content) s =
      ((FileTree.write path content s.files).1,
        { s with files := (FileTree.write path content s.files).2 }.noted (.write path content)
          ((FileTree.write path content s.files).1.map Replies.reply)) := by
  simp [write]

@[simp] theorem outcome_append [FileTree ω] (path : Path) (content : String)
    (s : RunState ω) :
    outcome (append path content) s =
      ((FileTree.append path content s.files).1,
        { s with files := (FileTree.append path content s.files).2 }.noted (.append path content)
          ((FileTree.append path content s.files).1.map Replies.reply)) := by
  simp [append]

@[simp] theorem outcome_fetch (web : Web) (url : String) (s : RunState ω) :
    outcome (fetch web url) s =
      (web.fetch url, s.noted (.fetch url) ((web.fetch url).map Replies.reply)) := by
  simp [fetch]

@[simp] theorem outcome_prompt (call : ServiceCall) (reading : Answer → Except RunError α)
    (s : RunState ω) :
    outcome (prompt call reading) s =
      (s.prompter.next.1.bind reading,
        { s with prompter := s.prompter.next.2 }.noted call
          ((s.prompter.next.1.bind reading).map Replies.reply)) := by
  simp [prompt]

@[simp] theorem outcome_report (level : LogLevel) (message : String) (s : RunState ω) :
    outcome (report level message) s = (.ok (), s.noted (.report level message) (.ok .done)) := by
  simp [report, Except.map, Replies.reply]

end Service

namespace Prompter

theorem remaining_next {p : Prompter} {answer : Answer} (hnext : p.next.1 = .ok answer) :
    p.next.2.remaining + 1 = p.remaining := by
  cases p with
  | absent => simp [next] at hnext
  | script answers =>
      cases answers with
      | nil => simp [next] at hnext
      | cons first rest => simp [next, remaining]

end Prompter
end Scaffold
