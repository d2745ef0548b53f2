import Scaffold.Proofs.Effects
import Scaffold.Proofs.TableLaws

/-!
# Variables only gain

A variable gets a value only where it had none.  Whatever has a value keeps one to the end of the
run, and its text changes only when a variable below it gets its first value.
-/

namespace Scaffold

open VariableTable (IsAbove)

variable {ω : Type}

namespace Variables

variable {vars : Variables} {scope : Scope} {key name value : String}

@[simp] theorem table_set_self :
    (vars.set scope key value).table scope = (vars.table scope).set key value := by
  cases scope <;> rfl

theorem table_set_of_ne {other : Scope} (hne : other ≠ scope) :
    (vars.set scope key value).table other = vars.table other := by
  cases scope <;> cases other <;> first | rfl | exact absurd rfl hne

theorem isDefined_set_self : (vars.set scope key value).isDefined scope key = true := by
  simp [isDefined, VariableTable.contains]

theorem get_set_of_undefined {other : Scope} (hkey : vars.isDefined scope key = false)
    (hname : vars.isDefined other name = true) :
    (vars.set scope key value).isDefined other name = true ∧
      ((vars.set scope key value).get other name = vars.get other name ∨
        scope = other ∧ IsAbove name key) := by
  by_cases hscope : other = scope
  · subst hscope
    rw [isDefined, get, get, table_set_self]
    obtain ⟨hkept, hsame⟩ := VariableTable.get_set_of_undefined hkey hname
    exact ⟨hkept, hsame.imp_right fun habove => ⟨rfl, habove⟩⟩
  · rw [isDefined, get, get, table_set_of_ne hscope]
    exact ⟨hname, Or.inl rfl⟩

end Variables

/-- The errand marks the id or asks its question. -/
def Errand.Settles (id : String) : Errand → Prop
  | .record marked => marked = id
  | .body _ (.task gate (.question _)) => gate.id = some id
  | _ => False

theorem Job.vars_finish (id : String) (s : RunState ω) :
    (Job.finish id s).vars = s.vars ∨
      ¬s.vars.HasId id ∧ (Job.finish id s).vars = s.vars.setId id "" := by
  unfold Job.finish
  dsimp only
  split
  next => exact Or.inl rfl
  next hundefined => exact Or.inr ⟨hundefined, rfl⟩

/-- An errand leaves the variables as they are, or it settles one id. -/
theorem Errand.Effect.vars [FileTree ω] {errand : Errand} {s t : RunState ω}
    (heffect : Effect s t errand) :
    t.vars = s.vars ∨ ∃ id value, errand.Settles id ∧ ¬s.vars.HasId id ∧
      t.vars = s.vars.setId id value := by
  cases heffect with
  | quiet hquiet => exact Or.inl hquiet.vars
  | visit key _ hquiet => exact Or.inl hquiet.vars
  | collect own hstate => exact Or.inl (hstate ▸ rfl)
  | file _ _ _ _ _ hputs =>
      obtain ⟨event, back, prompter, rfl, -⟩ := hputs
      exact Or.inl rfl
  | answer frame gate q id answer u hid hundefined hquiet hstate =>
      refine Or.inr ⟨id, answer, hid, hundefined, ?_⟩
      rw [hstate, hquiet.vars]
  | record id hstate =>
      subst hstate
      exact (Job.vars_finish id s).imp_right fun ⟨hundefined, hvars⟩ =>
        ⟨id, "", rfl, hundefined, hvars⟩

namespace Moment

variable [FileTree ω] {m : Moment ω} {scope : Scope} {name : String}

def HasValue (m : Moment ω) (scope : Scope) (name : String) : Prop :=
  m.state.vars.isDefined scope name = true

def text (m : Moment ω) (scope : Scope) (name : String) : Option String :=
  m.state.vars.get scope name

/-- In the next step the id is marked or its question is answered, and its variable gets its first
value. -/
def Settles (around : Surroundings) (m : Moment ω) (id : String) : Prop :=
  (∃ errand rest, m.agenda = errand :: rest ∧ errand.Settles id) ∧
    ¬m.state.vars.HasId id ∧ (m.next around).state.vars.HasId id

def FillsBelow (around : Surroundings) (m : Moment ω) (scope : Scope) (name : String) : Prop :=
  ∃ id, m.Settles around id ∧ (VariableRef.ofJobId id).scope = scope ∧
    IsAbove name (VariableRef.ofJobId id).name

/-- One step: what has a value keeps one, with the same text unless something below is filled. -/
theorem value_next (around : Surroundings) (hvalue : m.HasValue scope name) :
    (m.next around).HasValue scope name ∧
      ((m.next around).text scope name = m.text scope name ∨
        m.FillsBelow around scope name) := by
  rcases hagenda : m.agenda with _ | ⟨errand, rest⟩
  · rw [next_of_nil hagenda]
    exact ⟨hvalue, Or.inl rfl⟩
  · have heffect := Errand.effect_perform around errand m.state
    rw [← state_next_of_cons hagenda] at heffect
    -- Only an id without a value is settled, which is all that the law of tables asks for.
    rcases heffect.vars with hvars | ⟨id, value, hsettles, hundefined, hvars⟩
    · rw [HasValue, text, text, hvars]
      exact ⟨hvalue, Or.inl rfl⟩
    · have hfirst : m.Settles around id := by
        refine ⟨⟨errand, rest, hagenda, hsettles⟩, hundefined, ?_⟩
        rw [hvars]
        exact Variables.isDefined_set_self
      rw [HasValue, text, text, hvars]
      obtain ⟨hkept, hsame⟩ :=
        Variables.get_set_of_undefined ((Bool.not_eq_true _).mp hundefined) hvalue
      exact ⟨hkept, hsame.imp_right fun ⟨hscope, habove⟩ => ⟨id, hfirst, hscope, habove⟩⟩

theorem value_after (around : Surroundings) {first later : Nat} (hle : first ≤ later)
    (hvalue : (m.after around first).HasValue scope name) :
    (m.after around later).HasValue scope name ∧
      ((m.after around later).text scope name = (m.after around first).text scope name ∨
        ∃ step, first ≤ step ∧ step < later ∧
          (m.after around step).FillsBelow around scope name) := by
  induction later, hle using Nat.le_induction with
  | base => exact ⟨hvalue, Or.inl rfl⟩
  | succ n hle ih =>
      obtain ⟨hkept, hsame⟩ := ih
      obtain ⟨hnext, hthen⟩ := value_next around hkept
      rw [after_succ]
      refine ⟨hnext, ?_⟩
      rcases hthen with hthen | hfills
      · rcases hsame with hsame | ⟨step, hfirst, hlater, hfills⟩
        · exact Or.inl (hthen.trans hsame)
        · exact Or.inr ⟨step, hfirst, by omega, hfills⟩
      · exact Or.inr ⟨n, hle, Nat.lt_succ_self n, hfills⟩

/-- From any moment on, a variable that has a value keeps one, and its text changes only when a
variable below it gets its first value. -/
def Gains (around : Surroundings) (m : Moment ω) : Prop :=
  ∀ scope name first later, first ≤ later → (m.after around first).HasValue scope name →
    (m.after around later).HasValue scope name ∧
      ((m.after around later).text scope name = (m.after around first).text scope name ∨
        ∃ step, first ≤ step ∧ step < later ∧
          (m.after around step).FillsBelow around scope name)

end Moment

/-- Variables only gain, whatever is to be done.  The runs of documents and of their jobs are such
runs. -/
theorem Document.variables_gain [FileTree ω] (around : Surroundings) :
    (∀ agenda (s : RunState ω), (Moment.start agenda s).Gains around) ∧
      (∀ extend text (s : RunState ω),
        (Moment.start [.root extend text] s).EndsAs around (loadRoot around extend text)) ∧
      ∀ base definitions jobs (s : RunState ω),
        (Moment.start (jobs.map (.offer (Frame.root base definitions))) s).EndsAs around
          (Job.runAll around (Frame.root base definitions) jobs) := by
  refine ⟨?_, endsAs_loadRoot around, Job.endsAs_runAll around⟩
  intro agenda s scope name first later hle hvalue
  exact Moment.value_after around hle hvalue

end Scaffold
