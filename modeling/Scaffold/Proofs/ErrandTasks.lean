import Scaffold.Proofs.ReadJobs
import Scaffold.Proofs.Trails

/-!
# Tasks that come up in a run

A run comes to no jobs but those of documents that have been read.  What holds of all gates and
tasks of such documents therefore holds of those that are worked off.
-/

namespace Scaffold

open Run

variable {ω : Type} [FileTree ω] {around : Surroundings} {ofGate : Gate → Prop}
  {ofTask : Gate → Task → Prop}

theorem Document.exists_ofJson_of_obtain {web : Web} {source : DocumentSource} {d : Document}
    {s t : RunState ω} (hobtain : outcome (obtain web source) s = (.ok d, t)) :
    ∃ v, ofJson v = .ok d := by
  cases source with
  | remote url =>
      obtain ⟨body, -, hparse⟩ := parse_of_obtain_remote hobtain
      obtain ⟨v, -, hread⟩ := parse_eq_ok_iff.mp hparse
      exact ⟨v, hread⟩
  | «local» path =>
      obtain ⟨text, u, -, hfault⟩ := outcome_bind_eq_ok_iff.mp hobtain
      rw [outcome_orFault] at hfault
      rcases hparse : Document.parse text with e | parsed
      · simp [hparse, Except.mapError] at hfault
      · obtain ⟨v, -, hread⟩ := parse_eq_ok_iff.mp hparse
        obtain rfl : parsed = d := by simpa [hparse, Except.mapError] using congrArg Prod.fst hfault
        exact ⟨v, hread⟩

namespace Errand

variable {errand fresh : Errand} {more : List Errand} {s t : RunState ω}

/-- Each gate of the job that is to run, and of the definitions that it can reach, has the one
property, and each task the other. -/
def Every (ofGate : Gate → Prop) (ofTask : Gate → Task → Prop) : Errand → Prop
  | .offer frame job | .body frame job =>
      job.Every ofGate ofTask ∧ ∀ entry ∈ frame.definitions, entry.2.Every ofGate ofTask
  | _ => True

omit [FileTree ω] in
theorem every_offers {base : Option Path} {d : Document} (hdocument : d.Every ofGate ofTask)
    (hfresh : fresh ∈ d.jobs.map (.offer (Frame.root base d.definitions))) :
    fresh.Every ofGate ofTask := by
  obtain ⟨job, hjob, rfl⟩ := List.mem_map.mp hfresh
  exact ⟨hdocument.jobs job hjob, hdocument.definitions⟩

omit [FileTree ω] in
theorem every_ofDocument {base : Option Path} {bound : Nat} {d : Document}
    (hdocument : d.Every ofGate ofTask) (hfresh : fresh ∈ ofDocument base bound d) :
    fresh.Every ofGate ofTask := by
  rw [ofDocument, List.mem_append, List.mem_append, List.mem_singleton] at hfresh
  rcases hfresh with (hjob | hentry) | rfl
  · exact every_offers hdocument hjob
  · obtain ⟨entry, -, rfl⟩ := List.mem_map.mp hentry
    trivial
  · trivial

theorem every_of_runBody {frame : Frame} {job : Job} (hjob : job.Every ofGate ofTask)
    (hdefinitions : ∀ entry ∈ frame.definitions, entry.2.Every ofGate ofTask)
    (hout : outcome (runBody around frame job) s = (.ok more, t)) (hfresh : fresh ∈ more) :
    fresh.Every ofGate ofTask := by
  cases job with
  | group gate base jobs =>
      obtain ⟨inside, u, -, hjobs⟩ := outcome_bind_eq_ok_iff.mp hout
      obtain ⟨rfl, -⟩ := outcome_pure_eq_ok_iff.mp hjobs
      obtain ⟨inner, hmem, rfl⟩ := List.mem_map.mp hfresh
      exact ⟨Job.allEvery_iff.mp hjob.2 inner hmem, hdefinitions⟩
  | task gate action =>
      by_cases hplain : action.isPlain = true
      · rw [runBody_plain around frame gate hplain] at hout
        obtain rfl := eq_nil_of_then_nil hout
        cases hfresh
      · obtain ⟨target, rfl⟩ : ∃ target, action = .run target := by
          cases action with
          | run target => exact ⟨target, rfl⟩
          | _ => exact absurd rfl hplain
        obtain ⟨job, inner, hfind, henter, rfl⟩ := exists_of_run hout
        obtain rfl := List.mem_singleton.mp hfresh
        refine ⟨hdefinitions _ (Definitions.mem_of_find? hfind), ?_⟩
        rwa [Frame.enter_definitions henter]

omit [FileTree ω] in
theorem eq_document_of_runEntry {base : Option Path} {bound : Nat} {entry : Dependency}
    (hout : outcome (runEntry base bound entry) s = (.ok more, t)) (hfresh : fresh ∈ more) :
    ∃ source, fresh = .document base bound source := by
  unfold runEntry at hout
  split at hout
  next source hlinked =>
    rw [outcome_get_bind] at hout
    split at hout
    next =>
      obtain ⟨rfl, -⟩ := outcome_pure_eq_ok_iff.mp hout
      cases hfresh
    next =>
      obtain ⟨_, u, -, hmore⟩ := outcome_bind_eq_ok_iff.mp hout
      obtain ⟨rfl, -⟩ := outcome_pure_eq_ok_iff.mp hmore
      exact ⟨source, List.mem_singleton.mp hfresh⟩
  next =>
    obtain rfl := eq_nil_of_then_nil hout
    cases hfresh

/-- What an errand leads to comes of the jobs and definitions that it had, or of a document that it
has read. -/
theorem Every.perform (hread : ∀ v d, Document.ofJson v = .ok d → d.Every ofGate ofTask)
    (herrand : errand.Every ofGate ofTask)
    (hout : outcome (errand.perform around) s = (.ok more, t)) (hfresh : fresh ∈ more) :
    fresh.Every ofGate ofTask := by
  cases errand with
  | root extend text =>
      obtain ⟨_, u, -, hout⟩ := outcome_bind_eq_ok_iff.mp hout
      obtain ⟨base, v, -, hmore⟩ := outcome_bind_eq_ok_iff.mp hout
      obtain ⟨rfl, -⟩ := outcome_pure_eq_ok_iff.mp hmore
      obtain rfl := List.mem_singleton.mp hfresh
      trivial
  | document base bound source =>
      cases bound with
      | zero => cases hout
      | succ bound =>
          obtain ⟨d, u, hobtain, hpure⟩ := outcome_bind_eq_ok_iff.mp hout
          obtain ⟨rfl, -⟩ := outcome_pure_eq_ok_iff.mp hpure
          obtain ⟨v, hdocument⟩ := Document.exists_ofJson_of_obtain hobtain
          exact every_ofDocument (hread v d hdocument) hfresh
  | dependency base bound entry =>
      obtain ⟨source, rfl⟩ := eq_document_of_runEntry hout hfresh
      trivial
  | registry names =>
      obtain rfl := eq_nil_of_then_nil hout
      cases hfresh
  | offer frame job =>
      obtain ⟨runs, u, -, hmore⟩ := outcome_bind_eq_ok_iff.mp hout
      cases runs with
      | false =>
          obtain ⟨rfl, -⟩ := outcome_pure_eq_ok_iff.mp hmore
          cases hfresh
      | true =>
          obtain ⟨rfl, -⟩ := outcome_pure_eq_ok_iff.mp hmore
          rcases List.mem_cons.mp hfresh with rfl | hrecord
          · exact herrand
          · obtain ⟨id, -, rfl⟩ := List.mem_map.mp hrecord
            trivial
  | body frame job => exact every_of_runBody herrand.1 herrand.2 hout hfresh
  | record id =>
      obtain rfl := eq_nil_of_then_nil hout
      cases hfresh

end Errand

namespace Moment

variable {m : Moment ω} {act : Run ω Unit}

/-- All tasks that a run comes to stand in documents that are read, if those do with which it
starts. -/
theorem every_after (hread : ∀ v d, Document.ofJson v = .ok d → d.Every ofGate ofTask)
    (hstart : ∀ errand ∈ m.agenda, errand.Every ofGate ofTask) (steps : Nat) :
    ∀ errand ∈ (m.after around steps).agenda, errand.Every ofGate ofTask := by
  induction steps with
  | zero => exact hstart
  | succ n ih =>
      rw [after_succ]
      refine (invariant_next (P := fun _ => True)
        (Q := fun _ errand => errand.Every ofGate ofTask) trivial ih ?_).2
      intro errand rest hagenda r t hout
      refine ⟨trivial, fun _ hother => hother, ?_⟩
      rintro more rfl fresh hfresh
      exact (ih errand (by simp [hagenda])).perform hread hout hfresh

/-- The run is that of the jobs of a document that has been read, or of a document by its name with
all that it depends on. -/
inductive RunsDocument (around : Surroundings) : Moment ω → Run ω Unit → Prop where
  | jobs {v : Json} {d : Document} (hread : Document.ofJson v = .ok d) (base : Option Path)
      (s : RunState ω) :
      RunsDocument around (start (d.jobs.map (.offer (Frame.root base d.definitions))) s)
        (Job.runAll around (Frame.root base d.definitions) d.jobs)
  | root (extend : Option String) (text : String) (s : RunState ω) :
      RunsDocument around (start [.root extend text] s) (Document.loadRoot around extend text)

theorem RunsDocument.endsAs (hruns : m.RunsDocument around act) : m.EndsAs around act := by
  cases hruns with
  | @jobs v d hread base s => exact Job.endsAs_runAll around base d.definitions d.jobs s
  | root extend text s => exact Document.endsAs_loadRoot around extend text s

theorem RunsDocument.every_after (hread : ∀ v d, Document.ofJson v = .ok d → d.Every ofGate ofTask)
    (hruns : m.RunsDocument around act) (steps : Nat) :
    ∀ errand ∈ (m.after around steps).agenda, errand.Every ofGate ofTask := by
  refine Moment.every_after hread ?_ steps
  cases hruns with
  | jobs hdocument base s =>
      exact fun errand herrand => Errand.every_offers (hread _ _ hdocument) herrand
  | root extend text s =>
      intro errand herrand
      obtain rfl := List.mem_singleton.mp herrand
      trivial

end Moment
end Scaffold
