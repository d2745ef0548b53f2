import Scaffold.Files.Memory
import Scaffold.Proofs.Gains
import Scaffold.Proofs.Guards

/-!
# Completed ids

An id that is done stays done, and from then on its variable has a value.  A later job with that id
ends at its gate, before its guard is read and before anything is asked.
-/

namespace Scaffold

open Run

variable {ω : Type}

namespace Variables

theorem HasId.setId {vars : Variables} {id other value : String} (hid : vars.HasId id)
    (hother : ¬vars.HasId other) : (vars.setId other value).HasId id := by
  have hundefined := (Bool.not_eq_true _).mp hother
  exact (get_set_of_undefined hundefined hid).1

theorem hasId_setId_self {vars : Variables} {id value : String} :
    (vars.setId id value).HasId id := isDefined_set_self

end Variables

namespace RunState

variable {s : RunState ω}

/-- Every id that is done has left its mark. -/
def Marked (s : RunState ω) : Prop := ∀ id ∈ s.completed, s.vars.HasId id

theorem start_marked (vars : Variables) (files : ω) (prompter : Prompter) :
    (start vars files prompter).Marked := by
  intro id hid
  simp [start] at hid

end RunState

namespace Job

variable {id : String} {s : RunState ω}

theorem hasId_finish : (finish id s).vars.HasId id := by
  unfold finish
  dsimp only
  split
  next hdefined => exact hdefined
  next => exact Variables.hasId_setId_self

theorem outcome_shouldRun_of_completed {gate : Gate} (hid : gate.id = some id)
    (hdone : id ∈ s.completed) : outcome (shouldRun gate) s = (.ok false, s) := by
  have hcompleted : gate.id.any s.isCompleted = true := by
    simpa [hid, RunState.isCompleted] using hdone
  rw [shouldRun, outcome_get_bind, if_pos hcompleted]
  rfl

theorem outcome_gated_of_completed {gate : Gate} (hid : gate.id = some id)
    (hdone : id ∈ s.completed) (act : Run ω Unit) :
    outcome (gated gate act) s = (.ok (), s) := by
  rw [gated, outcome_bind_ok (outcome_shouldRun_of_completed hid hdone)]
  rfl

/-- The gate of a job whose id is done lets nothing happen. -/
theorem outcome_exec_of_completed [FileTree ω] (around : Surroundings)
    (invoke : Frame → String → Run ω Unit) (frame : Frame) {job : Job}
    (hid : job.gate.id = some id) (hdone : id ∈ s.completed) :
    outcome (exec around invoke frame job) s = (.ok (), s) := by
  cases job with
  | task gate action =>
      rw [exec]
      exact outcome_gated_of_completed hid hdone _
  | group gate base jobs =>
      rw [exec]
      exact outcome_gated_of_completed hid hdone _

end Job

namespace Errand

variable [FileTree ω] {errand : Errand} {s t : RunState ω} {id : String}

theorem Effect.hasId (heffect : Effect s t errand) (hid : s.vars.HasId id) :
    t.vars.HasId id := by
  rcases heffect.vars with hvars | ⟨other, value, -, hundefined, hvars⟩
  · rw [hvars]
    exact hid
  · rw [hvars]
    exact hid.setId hundefined

theorem Effect.completed_subset (heffect : Effect s t errand) :
    s.completed ⊆ t.completed := by
  rcases heffect.completed with hcompleted | ⟨marked, -, hstate⟩
  · rw [hcompleted]
    exact List.Subset.refl _
  · rw [hstate, Job.completed_finish]
    intro other hother
    exact RunState.mem_inserted.mpr (Or.inl hother)

/-- An id gets done where it is marked. -/
theorem Effect.completed_or_hasId (heffect : Effect s t errand) (hid : id ∈ t.completed) :
    id ∈ s.completed ∨ t.vars.HasId id := by
  rcases heffect.completed with hcompleted | ⟨marked, -, hstate⟩
  · exact Or.inl (hcompleted ▸ hid)
  · rw [hstate, Job.completed_finish] at hid
    rcases RunState.mem_inserted.mp hid with hold | rfl
    · exact Or.inl hold
    · exact Or.inr (hstate ▸ Job.hasId_finish)

theorem Effect.marked (heffect : Effect s t errand) (hmarked : s.Marked) : t.Marked := by
  intro id hid
  rcases heffect.completed_or_hasId hid with hold | hnew
  · exact heffect.hasId (hmarked id hold)
  · exact hnew

end Errand

/-- From one state to the other errands are worked off, one agenda after the other; an agenda may
have ended in a failure, or may not have come to its end. -/
inductive Onward [FileTree ω] (around : Surroundings) (s : RunState ω) : RunState ω → Prop where
  | refl : Onward around s s
  | work {t : RunState ω} (agenda : List Errand) (steps : Nat) (hbefore : Onward around s t) :
      Onward around s ((Moment.start agenda t).after around steps).state

namespace Onward

variable [FileTree ω] {around : Surroundings} {s t : RunState ω}

theorem keeps {P : RunState ω → Prop}
    (hperform : ∀ (errand : Errand) (u : RunState ω), P u →
      P (outcome (errand.perform around) u).2)
    (honward : Onward around s t) (hstart : P s) : P t := by
  induction honward with
  | refl => exact hstart
  | work agenda steps _ ih => exact Moment.keeps_after hperform ih steps

theorem marked (honward : Onward around s t) (hmarked : s.Marked) : t.Marked := by
  refine honward.keeps (fun errand u hu => ?_) hmarked
  exact (Errand.effect_perform around errand u).marked hu

theorem completed_subset (honward : Onward around s t) : s.completed ⊆ t.completed := by
  refine honward.keeps (P := fun u => s.completed ⊆ u.completed) (fun errand u hu => ?_)
    (List.Subset.refl _)
  exact List.Subset.trans hu (Errand.effect_perform around errand u).completed_subset

theorem of_endsAs {agenda : List Errand} {act : Run ω Unit}
    (hends : (Moment.start agenda s).EndsAs around act) :
    Onward around s (outcome act s).2 := by
  obtain ⟨steps, hlast⟩ := hends
  have hstate : ((Moment.start agenda s).after around steps).state = (outcome act s).2 := by
    rw [hlast]
    exact Moment.state_ended _
  rw [← hstate]
  exact work agenda steps refl

theorem loadRoot (around : Surroundings) (extend : Option String) (text : String)
    (s : RunState ω) : Onward around s (outcome (Document.loadRoot around extend text) s).2 :=
  of_endsAs (Document.endsAs_loadRoot around extend text s)

theorem run (around : Surroundings) (base : Option Path) (definitions : Definitions) (job : Job)
    (s : RunState ω) :
    Onward around s (outcome (Job.run around (Frame.root base definitions) job) s).2 :=
  of_endsAs (Job.unfolds_run around (Frame.root base definitions) job s).endsAs

end Onward

/-- The id is over and done with: its variable has a value, the guard that asks for it holds, and a
job with that id changes nothing and makes no call, wherever it stands. -/
structure RunState.Settled [FileTree ω] (around : Surroundings) (id : String)
    (s : RunState ω) : Prop where
  marked : s.vars.HasId id
  guard : VariableRef.isName (VariableRef.ofJobId id).name.toList = true →
    Guard.evaluate (VariableRef.ofJobId id).guard s.vars = .ok true
  skipped : ∀ (invoke : Frame → String → Run ω Unit) (frame : Frame) (job : Job),
    job.gate.id = some id → outcome (Job.exec around invoke frame job) s = (.ok (), s)

theorem RunState.Marked.settled [FileTree ω] {s : RunState ω} {id : String}
    (hmarked : s.Marked) (hid : id ∈ s.completed) (around : Surroundings) :
    s.Settled around id := by
  have hvalue := hmarked id hid
  refine ⟨hvalue, fun hname => ?_, fun invoke frame job hjob => ?_⟩
  · rw [Guard.evaluate_guard hname]
    exact congrArg Except.ok hvalue
  · exact Job.outcome_exec_of_completed around invoke frame hjob hid

/-- From the start of a run on, what is done stays done and is settled.  Jobs that have been run, and
documents that have been loaded, lead onward, also when they fail. -/
theorem Document.completed_settled [FileTree ω] (around : Surroundings) :
    (∀ store (files : ω) prompter s t,
      Onward around (RunState.start (.withStore store) files prompter) s → Onward around s t →
      s.completed ⊆ t.completed ∧ ∀ id ∈ s.completed, t.Settled around id) ∧
    (∀ extend text (s : RunState ω), Onward around s (outcome (loadRoot around extend text) s).2) ∧
    ∀ base definitions job (s : RunState ω),
      Onward around s (outcome (Job.run around (Frame.root base definitions) job) s).2 := by
  refine ⟨?_, Onward.loadRoot around, Onward.run around⟩
  intro store files prompter s t hs ht
  have hmarked : t.Marked := ht.marked (hs.marked (RunState.start_marked _ _ _))
  have hkept := ht.completed_subset
  exact ⟨hkept, fun id hid => hmarked.settled (hkept hid) around⟩

namespace Document

def greeting : Job :=
  .group ⟨none, none, none⟩ none
    [ .task ⟨some "@seen", none, none⟩ (.log .info "hello"),
      .task ⟨some "more", none, none⟩ (.run "nowhere") ]

def greetingStart : RunState MemoryFiles :=
  RunState.start (.withStore .empty) MemoryFiles.empty (.script [])

/-- What the run of a group leaves that fails in its second job. -/
def greeted : RunState MemoryFiles :=
  (outcome (Job.run ⟨⟨[]⟩, false⟩ (Frame.root none []) greeting) greetingStart).2

theorem completed_settled_greeted :
    Onward ⟨⟨[]⟩, false⟩ greetingStart greeted ∧ "@seen" ∈ greeted.completed ∧
      greeted.Settled ⟨⟨[]⟩, false⟩ "@seen" := by
  have hruns := (completed_settled (ω := MemoryFiles) ⟨⟨[]⟩, false⟩).2.2
  have honward : Onward ⟨⟨[]⟩, false⟩ greetingStart greeted := hruns none [] greeting greetingStart
  have hdone : "@seen" ∈ greeted.completed := by
    decide
  have hsettled := (completed_settled (ω := MemoryFiles) ⟨⟨[]⟩, false⟩).1 .empty MemoryFiles.empty
    (.script []) greeted greeted honward Onward.refl
  exact ⟨honward, hdone, hsettled.2 "@seen" hdone⟩

end Document
end Scaffold
