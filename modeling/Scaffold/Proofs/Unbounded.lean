import Scaffold.Proofs.Agenda

/-!
# Runs without a bound

Documents are loaded with a bound on how deep they may lie.  Here they are loaded without it: before
each step every document that is still to come gets one more level.  Both ways go in step until the
bound is met.
-/

namespace Scaffold

open Run

variable {ω : Type}

namespace Errand

/-- The errand with a level to spare. -/
def renewed : Errand → Errand
  | .document base _ source => .document base 1 source
  | .dependency base _ entry => .dependency base 1 entry
  | errand => errand

/-- The errand has met the bound. -/
def isSpent : Errand → Bool
  | .document _ 0 _ => true
  | _ => false

variable {errand : Errand} {base : Option Path} {source : DocumentSource}

theorem renewed_renewed : errand.renewed.renewed = errand.renewed := by
  cases errand <;> rfl

theorem eq_document_of_renewed (hrenewed : errand.renewed = .document base 1 source) :
    ∃ bound, errand = .document base bound source := by
  cases errand with
  | document other bound named =>
      obtain ⟨rfl, -, rfl⟩ := Errand.document.inj hrenewed
      exact ⟨bound, rfl⟩
  | _ => cases hrenewed

/-- What an errand comes to, with a level to spare for all that takes its place. -/
def renewedOutcome (r : Except RunError (List Errand) × RunState ω) :
    Except RunError (List Errand) × RunState ω :=
  (r.1.map (List.map renewed), r.2)

theorem map_renewed_ofDocument (base : Option Path) (bound other : Nat) (document : Document) :
    (ofDocument base bound document).map renewed = (ofDocument base other document).map renewed := by
  simp only [ofDocument, List.map_append, List.map_map]
  rfl

variable [FileTree ω] (around : Surroundings) (s : RunState ω)

theorem renewedOutcome_document (base : Option Path) (bound other : Nat)
    (source : DocumentSource) :
    renewedOutcome (outcome ((Errand.document base (bound + 1) source).perform around) s) =
      renewedOutcome (outcome ((Errand.document base (other + 1) source).perform around) s) := by
  simp only [perform]
  rcases hobtain : outcome (Document.obtain around.web source) s with ⟨e | document, t⟩
  · rw [outcome_bind_error hobtain, outcome_bind_error hobtain]
  · rw [outcome_bind_ok hobtain, outcome_bind_ok hobtain]
    have hmore := map_renewed_ofDocument base bound other document
    simp [renewedOutcome, Except.map, hmore]

theorem renewedOutcome_dependency (base : Option Path) (bound other : Nat) (entry : Dependency) :
    renewedOutcome (outcome ((Errand.dependency base bound entry).perform around) s) =
      renewedOutcome (outcome ((Errand.dependency base other entry).perform around) s) := by
  simp only [perform, runEntry]
  rcases Document.linked? entry with _ | source
  · rfl
  · rw [outcome_get_bind, outcome_get_bind]
    cases s.isVisited source.key <;> rfl

/-- Short of the bound, a level more or less below an errand makes no difference to it. -/
theorem renewedOutcome_renewed (hspent : errand.isSpent = false) :
    renewedOutcome (outcome (errand.renewed.perform around) s) =
      renewedOutcome (outcome (errand.perform around) s) := by
  cases errand with
  | document base bound source =>
      cases bound with
      | zero => cases hspent
      | succ bound => exact renewedOutcome_document around s base 0 bound source
  | dependency base bound entry => exact renewedOutcome_dependency around s base 1 bound entry
  | _ => rfl

end Errand

namespace Moment

def renewed (m : Moment ω) : Moment ω := { m with agenda := m.agenda.map Errand.renewed }

theorem renewed_resume (rest : List Errand) (r : Except RunError (List Errand) × RunState ω) :
    (resume rest r).renewed = resume (rest.map Errand.renewed) (Errand.renewedOutcome r) := by
  obtain ⟨e | more, t⟩ := r
  · rfl
  · simp [resume, renewed, Errand.renewedOutcome, Except.map]

variable [FileTree ω]

/-- The next moment of a run in which documents may lie as deep as they like. -/
def nextUnbounded (around : Surroundings) (m : Moment ω) : Moment ω := m.renewed.next around

def afterUnbounded (around : Surroundings) (steps : Nat) (m : Moment ω) : Moment ω :=
  (nextUnbounded around)^[steps] m

variable {around : Surroundings} {m n : Moment ω}

theorem afterUnbounded_succ (steps : Nat) :
    m.afterUnbounded around (steps + 1) =
      (m.afterUnbounded around steps).nextUnbounded around := by
  rw [afterUnbounded, afterUnbounded, Function.iterate_succ_apply']

/-- One step keeps in step. -/
theorem renewed_next_eq (heq : m.renewed = n.renewed)
    (hspent : ∀ errand ∈ m.agenda, errand.isSpent = false) :
    (m.next around).renewed = (n.nextUnbounded around).renewed := by
  rw [nextUnbounded, ← heq]
  rcases hagenda : m.agenda with _ | ⟨errand, rest⟩
  · have hnil : m.renewed.agenda = [] := by simp [renewed, hagenda]
    rw [next_of_nil hagenda, next_of_nil hnil]
    simp [renewed, hagenda]
  · have hcons : m.renewed.agenda = errand.renewed :: rest.map Errand.renewed := by
      simp [renewed, hagenda]
    have hfirst : errand.isSpent = false := hspent errand (by simp [hagenda])
    -- The rest gets its level before the step on one side, and after it on the other.
    have hrest : (rest.map Errand.renewed).map Errand.renewed = rest.map Errand.renewed := by
      simp [Errand.renewed_renewed]
    rw [next_of_cons hagenda, next_of_cons hcons, renewed_resume, renewed_resume, hrest,
      ← Errand.renewedOutcome_renewed around m.state hfirst]
    rfl

end Moment
end Scaffold
