import Scaffold.Proofs.Calls

/-!
# Rounds of prompts

A name is asked for in rounds, each of which shows one prompt and takes one answer.  The rounds need
no bound: they end at the latest when the answers have run out.
-/

namespace Scaffold

open Run

variable {ω : Type}

namespace RunState

/-- How many prompts have been shown. -/
def prompts (s : RunState ω) : Nat := s.transcript.countP fun event => event.call.prompt?.isSome

theorem prompts_noted (call : ServiceCall) (r : Except RunError Reply) (s : RunState ω) :
    (s.noted call r).prompts = s.prompts + if call.prompt?.isSome then 1 else 0 := by
  simp [prompts, noted, List.countP_cons]

end RunState

namespace Destination

/-- Asks for a name once; an empty name and a problem are reported. -/
def askOnce (message : String) (default : Option String)
    (problem? : RunState ω → String → Option String) : Run ω (Option String) := do
  let name := enteredName default (← Service.text message default)
  if name = "" then
    Service.report .warn "File name cannot be empty"
    return none
  else
    match problem? (← get) name with
    | none => return some name
    | some problem =>
        Service.report .warn problem
        return none

variable (message : String) (default : Option String)
  (problem? : RunState ω → String → Option String)

/-- A name is asked for until it is entered or a prompt fails, in so many rounds. -/
inductive Rounds : Nat → RunState ω → Except RunError String × RunState ω → Prop where
  | named {s t : RunState ω} {name : String}
      (hout : outcome (askOnce message default problem?) s = (.ok (some name), t)) :
      Rounds 1 s (.ok name, t)
  | failed {s t : RunState ω} {e : RunError}
      (hout : outcome (askOnce message default problem?) s = (.error e, t)) :
      Rounds 1 s (.error e, t)
  | again {rounds : Nat} {s t : RunState ω} {r : Except RunError String × RunState ω}
      (hout : outcome (askOnce message default problem?) s = (.ok none, t))
      (hrest : Rounds rounds t r) : Rounds (rounds + 1) s r

variable {message default problem?}

theorem askName_succ (bound : Nat) :
    askName message default problem? (bound + 1) = (do
      match ← askOnce message default problem? with
      | some name => return name
      | none => askName message default problem? bound) := by
  simp only [askName, askOnce, bind_assoc]
  refine congrArg _ (funext fun raw => ?_)
  split
  · simp
  · simp only [bind_assoc]
    refine congrArg _ (funext fun s => ?_)
    cases problem? s (enteredName default raw) <;> simp

variable {s t : RunState ω}

theorem outcome_text_eq {raw : Except RunError String}
    (hout : outcome (Service.text message default) s = (raw, t)) :
    t.prompts = s.prompts + 1 ∧
      ∀ name, raw = .ok name → t.prompter.remaining + 1 = s.prompter.remaining := by
  constructor
  · rw [Service.text, Service.outcome_prompt] at hout
    obtain ⟨-, rfl⟩ := Prod.mk.inj hout
    exact RunState.prompts_noted _ _ _
  · rintro name rfl
    exact Service.remaining_of_text hout

/-- Each round shows one prompt, and takes an answer if another round comes after it. -/
theorem outcome_askOnce_eq {r : Except RunError (Option String)}
    (hout : outcome (askOnce message default problem?) s = (r, t)) :
    t.prompts = s.prompts + 1 ∧
      (r = .ok none → t.prompter.remaining + 1 = s.prompter.remaining) := by
  rcases htext : outcome (Service.text message default) s with ⟨e | raw, u⟩
  · rw [askOnce, outcome_bind_error htext] at hout
    obtain ⟨rfl, rfl⟩ := Prod.mk.inj hout
    exact ⟨(outcome_text_eq htext).1, by simp⟩
  · obtain ⟨hprompts, htaken⟩ := outcome_text_eq htext
    have hleft := htaken raw rfl
    rw [askOnce, outcome_bind_ok htext] at hout
    have hreported : ∀ problem, (r, t) =
        outcome (do Service.report .warn problem; return none) u →
        t.prompts = s.prompts + 1 ∧
          (r = .ok none → t.prompter.remaining + 1 = s.prompter.remaining) := by
      intro problem hreport
      obtain ⟨-, rfl⟩ := Prod.mk.inj hreport
      exact ⟨(RunState.prompts_noted _ _ u).trans hprompts, fun _ => hleft⟩
    dsimp only at hout
    split at hout
    · exact hreported _ hout.symm
    · rw [outcome_get_bind] at hout
      split at hout
      · obtain ⟨rfl, rfl⟩ := Prod.mk.inj hout
        exact ⟨hprompts, by simp⟩
      · exact hreported _ hout.symm

theorem Rounds.prompts {rounds : Nat} {r : Except RunError String × RunState ω}
    (hrounds : Rounds message default problem? rounds s r) :
    r.2.prompts = s.prompts + rounds := by
  induction hrounds with
  | named hout => exact (outcome_askOnce_eq hout).1
  | failed hout => exact (outcome_askOnce_eq hout).1
  | again hout _ ih =>
      have hfirst := (outcome_askOnce_eq hout).1
      omega

theorem rounds_askName {bound : Nat} (hbound : s.prompter.remaining < bound) :
    ∃ rounds ≤ s.prompter.remaining + 1,
      Rounds message default problem? rounds s
        (outcome (askName message default problem? bound) s) := by
  induction bound generalizing s with
  | zero => omega
  | succ bound ih =>
      rw [askName_succ]
      rcases hround : outcome (askOnce message default problem?) s with ⟨e | name?, t⟩
      · rw [outcome_bind_error hround]
        exact ⟨1, by omega, .failed hround⟩
      · rw [outcome_bind_ok hround]
        cases name? with
        | some name => exact ⟨1, by omega, .named hround⟩
        | none =>
            have hleft := (outcome_askOnce_eq hround).2 rfl
            obtain ⟨rounds, hle, hrest⟩ := ih (s := t) (by omega)
            exact ⟨rounds + 1, by omega, .again hround hrest⟩

/-- The rounds for a name come to what is asked, and there is at most one prompt more than answers
are left. -/
theorem rounds_promptName (message : String) (default : Option String)
    (problem? : RunState ω → String → Option String) (s : RunState ω) :
    ∃ rounds ≤ s.prompter.remaining + 1,
      Rounds message default problem? rounds s
        (outcome (promptName message default problem?) s) := by
  rw [promptName, outcome_get_bind]
  exact rounds_askName (Nat.lt_succ_self _)

end Destination
end Scaffold
