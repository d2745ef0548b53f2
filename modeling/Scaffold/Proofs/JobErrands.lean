import Scaffold.Proofs.Effects

/-!
# The errands of jobs

The jobs of a document lead to nothing but jobs of the same document, and the definitions that are
open around a job never outnumber those that the document has.  Jobs note no document as seen, and
what they collect comes behind what was pending before.
-/

namespace Scaffold

open Run

variable {ω : Type} [FileTree ω] {around : Surroundings} {definitions : Definitions}

namespace Errand

variable {errand fresh : Errand} {more : List Errand} {s t : RunState ω}

/-- The frame of the job that an errand offers or runs. -/
def frame? : Errand → Option Frame
  | .offer frame _ => some frame
  | .body frame _ => some frame
  | _ => none

/-- The errand belongs to the jobs of a document with these definitions. -/
inductive OfJobs (definitions : Definitions) : Errand → Prop where
  | offer {frame : Frame} {job : Job} (hsound : frame.Sound)
      (hdefinitions : frame.definitions = definitions) : OfJobs definitions (.offer frame job)
  | body {frame : Frame} {job : Job} (hsound : frame.Sound)
      (hdefinitions : frame.definitions = definitions) : OfJobs definitions (.body frame job)
  | record (id : String) : OfJobs definitions (.record id)

omit [FileTree ω] in
theorem ofJobs_ofJob {frame : Frame} {job : Job} (hsound : frame.Sound)
    (hdefinitions : frame.definitions = definitions) (hfresh : fresh ∈ ofJob frame job) :
    fresh.OfJobs definitions := by
  rcases List.mem_cons.mp hfresh with rfl | hrecord
  · exact .body hsound hdefinitions
  · obtain ⟨id, -, rfl⟩ := List.mem_map.mp hrecord
    exact .record id

omit [FileTree ω] in
theorem OfJobs.sound (hjobs : errand.OfJobs definitions) {frame : Frame}
    (hframe : errand.frame? = some frame) : frame.Sound ∧ frame.definitions = definitions := by
  cases hjobs with
  | offer hsound hdefinitions =>
      obtain rfl := Option.some.inj hframe
      exact ⟨hsound, hdefinitions⟩
  | body hsound hdefinitions =>
      obtain rfl := Option.some.inj hframe
      exact ⟨hsound, hdefinitions⟩
  | record id => cases hframe

omit [FileTree ω] in
theorem OfJobs.chain_le (hjobs : errand.OfJobs definitions) {frame : Frame}
    (hframe : errand.frame? = some frame) : frame.chain.length ≤ definitions.length := by
  obtain ⟨hsound, hdefinitions⟩ := hjobs.sound hframe
  exact hdefinitions ▸ hsound.length_le

omit [FileTree ω] in
theorem OfJobs.reference?_eq_none (hjobs : errand.OfJobs definitions) :
    errand.reference? = none := by
  cases hjobs <;> rfl

theorem runBody_plain (around : Surroundings) (frame : Frame) (gate : Gate) {action : Task}
    (hplain : action.isPlain = true) :
    (runBody around frame (.task gate action) : Run ω (List Errand)) = (do
      Job.runTask around (fun _ _ => return) frame gate.id action
      return []) := by
  cases action with
  | run target => cases hplain
  | _ => rfl

theorem exists_of_run {frame : Frame} {gate : Gate} {target : String}
    (hout : outcome (runBody around frame (.task gate (.run target))) s = (.ok more, t)) :
    ∃ job inner, frame.definitions.find? target = some job ∧ frame.enter target = .ok inner ∧
      more = [.offer inner job] := by
  simp only [runBody] at hout
  rcases hfind : frame.definitions.find? target with _ | job
  · simp [hfind] at hout
  · rcases henter : frame.enter target with e | inner
    · simp [hfind, henter, orFault] at hout
    · obtain ⟨rfl, -⟩ : [Errand.offer inner job] = more ∧ s = t := by
        simpa [hfind, henter, orFault] using hout
      exact ⟨job, inner, rfl, rfl, rfl⟩

theorem ofJobs_of_run {frame : Frame} {gate : Gate} {target : String} (hsound : frame.Sound)
    (hdefinitions : frame.definitions = definitions)
    (hout : outcome (runBody around frame (.task gate (.run target))) s = (.ok more, t))
    (hfresh : fresh ∈ more) : fresh.OfJobs definitions := by
  obtain ⟨job, inner, hfind, henter, rfl⟩ := exists_of_run hout
  obtain rfl := List.mem_singleton.mp hfresh
  have hinner := Frame.enter_definitions henter
  exact .offer (hsound.enter hfind henter) (hinner.trans hdefinitions)

theorem ofJobs_of_runBody {frame : Frame} {job : Job} (hsound : frame.Sound)
    (hdefinitions : frame.definitions = definitions)
    (hout : outcome (runBody around frame job) s = (.ok more, t)) (hfresh : fresh ∈ more) :
    fresh.OfJobs definitions := by
  cases job with
  | group gate base jobs =>
      obtain ⟨inside, u, -, hjobs⟩ := outcome_bind_eq_ok_iff.mp hout
      obtain ⟨rfl, -⟩ := outcome_pure_eq_ok_iff.mp hjobs
      obtain ⟨job, -, rfl⟩ := List.mem_map.mp hfresh
      exact .offer (hsound.withBase inside) hdefinitions
  | task gate action =>
      by_cases hplain : action.isPlain = true
      · rw [runBody_plain around frame gate hplain] at hout
        obtain rfl := eq_nil_of_then_nil hout
        cases hfresh
      · cases action with
        | run target => exact ofJobs_of_run hsound hdefinitions hout hfresh
        | _ => exact absurd rfl hplain

/-- Jobs lead to nothing but jobs. -/
theorem OfJobs.perform (hjobs : errand.OfJobs definitions)
    (hout : outcome (errand.perform around) s = (.ok more, t)) (hfresh : fresh ∈ more) :
    fresh.OfJobs definitions := by
  cases hjobs with
  | @offer frame job hsound hdefinitions =>
      obtain ⟨runs, u, -, hmore⟩ := outcome_bind_eq_ok_iff.mp hout
      cases runs with
      | false =>
          obtain ⟨rfl, -⟩ := outcome_pure_eq_ok_iff.mp hmore
          cases hfresh
      | true =>
          obtain ⟨rfl, -⟩ := outcome_pure_eq_ok_iff.mp hmore
          exact ofJobs_ofJob hsound hdefinitions hfresh
  | body hsound hdefinitions => exact ofJobs_of_runBody hsound hdefinitions hout hfresh
  | record id =>
      obtain rfl := eq_nil_of_then_nil hout
      cases hfresh

end Errand

/-- What jobs do beside their own effects: they see no document, and what they collect comes behind
what was pending before. -/
def RunState.CollectsTo (s t : RunState ω) : Prop :=
  t.visited = s.visited ∧ ∃ own, t.pending = s.pending ++ own

omit [FileTree ω] in
theorem RunState.CollectsTo.trans {s t u : RunState ω} (hfirst : s.CollectsTo t)
    (hsecond : t.CollectsTo u) : s.CollectsTo u := by
  obtain ⟨hseen, first, hpending⟩ := hfirst
  obtain ⟨hseen', second, hpending'⟩ := hsecond
  exact ⟨hseen'.trans hseen, first ++ second, by rw [hpending', hpending, Pending.append_assoc]⟩

theorem Errand.OfJobs.collectsTo {errand : Errand} (hjobs : errand.OfJobs definitions)
    (around : Surroundings) (s : RunState ω) :
    s.CollectsTo (outcome (errand.perform around) s).2 := by
  have heffect := effect_perform around errand s
  refine ⟨?_, heffect.pending⟩
  rcases heffect.visited with hseen | ⟨key, hkey, -⟩
  · exact hseen
  · rw [hjobs.reference?_eq_none] at hkey
    cases hkey

/-- At every moment of the jobs of a document, all that is left to be done are its jobs. -/
theorem Moment.ofJobs_after {m : Moment ω} (around : Surroundings)
    (hstart : ∀ errand ∈ m.agenda, errand.OfJobs definitions) (steps : Nat) :
    m.state.CollectsTo (m.after around steps).state ∧
      ∀ errand ∈ (m.after around steps).agenda, errand.OfJobs definitions := by
  induction steps with
  | zero => exact ⟨⟨rfl, .empty, by simp⟩, hstart⟩
  | succ n ih =>
      rw [after_succ]
      refine invariant_next (Q := fun _ errand => errand.OfJobs definitions) ih.1 ih.2 ?_
      intro errand rest hagenda r t hout
      have hjobs := ih.2 errand (by simp [hagenda])
      have hcollects : RunState.CollectsTo (m.after around n).state t := by
        simpa [hout] using hjobs.collectsTo around (m.after around n).state
      refine ⟨ih.1.trans hcollects, fun _ hother => hother, ?_⟩
      rintro more rfl fresh hfresh
      exact hjobs.perform hout hfresh

namespace Job

variable {base : Option Path} {jobs : List Job} {s : RunState ω}

theorem ofJobs_offers {errand : Errand}
    (herrand : errand ∈ jobs.map (.offer (Frame.root base definitions))) :
    errand.OfJobs definitions := by
  obtain ⟨job, -, rfl⟩ := List.mem_map.mp herrand
  exact .offer (Frame.root_sound base definitions) rfl

theorem collectsTo_runAll (around : Surroundings) (base : Option Path)
    (definitions : Definitions) (jobs : List Job) (s : RunState ω) :
    s.CollectsTo (outcome (runAll around (Frame.root base definitions) jobs) s).2 := by
  obtain ⟨steps, hlast⟩ := endsAs_runAll around base definitions jobs s
  let m := Moment.start (jobs.map (.offer (Frame.root base definitions))) s
  have hstart : ∀ errand ∈ m.agenda, errand.OfJobs definitions := fun _ => ofJobs_offers
  have hcollects := (Moment.ofJobs_after around hstart steps).1
  rw [hlast, Moment.state_ended] at hcollects
  exact hcollects

end Job
end Scaffold
