import Mathlib.Logic.Relation
import Scaffold.Files.Memory
import Scaffold.Proofs.Completion
import Scaffold.Proofs.PromptRounds
import Scaffold.Proofs.Sessions

/-!
# Questions are asked once

A question whose variable has a value is passed over, and a question that is answered gives its
variable a value.  Since values last to the end of a run, and those of the store from one session to
the next, no variable is asked for again.
-/

namespace Scaffold

open Run

variable {ω : Type} [FileTree ω] {around : Surroundings}

omit [FileTree ω] in
theorem Job.hasId_of_answerQuestion {id : String} {q : Question} {s t : RunState ω}
    (hout : outcome (answerQuestion (some id) q) s = (.ok (), t)) : t.vars.HasId id := by
  by_cases hvalue : s.vars.HasId id
  · rw [outcome_answerQuestion_of_hasId hvalue] at hout
    obtain ⟨-, rfl⟩ := Prod.mk.inj hout
    exact hvalue
  · rw [outcome_answerQuestion_of_not_hasId hvalue] at hout
    obtain ⟨answer, u, -, hset⟩ := outcome_bind_eq_ok_iff.mp hout
    obtain ⟨-, rfl⟩ := Prod.mk.inj hset
    exact Variables.hasId_setId_self

/-- Without a sigil an id means the same variable as with the sigil of the memory. -/
theorem VariableRef.ofJobId_memory {key : List Char}
    (hplain : ∀ c ∈ key.head?, Scope.ofSigil? c = none) :
    ofJobId (String.ofList (Scope.memory.sigil :: key)) = ofJobId (String.ofList key) := by
  cases key with
  | nil => rfl
  | cons c rest =>
      have hc : Scope.ofSigil? c = none := hplain c rfl
      have hsigil : Scope.ofSigil? Scope.memory.sigil = some .memory := rfl
      simp [ofJobId, hc, hsigil]

namespace Moment

variable {m : Moment ω} {ref : VariableRef}

/-- The next step is that of a question whose id means the variable, and which has passed its
gate. -/
def RunsQuestion (m : Moment ω) (ref : VariableRef) : Prop :=
  ∃ frame gate q id rest, m.agenda = .body frame (.task gate (.question q)) :: rest ∧
    gate.id = some id ∧ VariableRef.ofJobId id = ref

/-- In the next step a question for the variable is shown. -/
def Poses (around : Surroundings) (m : Moment ω) (ref : VariableRef) : Prop :=
  m.RunsQuestion ref ∧ (m.next around).state.transcript ≠ m.state.transcript

/-- In the next step a question for the variable is shown and answered. -/
def Obtains (around : Surroundings) (m : Moment ω) (ref : VariableRef) : Prop :=
  m.Poses around ref ∧ (m.next around).failure = none

theorem next_of_question {frame : Frame} {gate : Gate} {q : Question} {id : String}
    {rest : List Errand} (hagenda : m.agenda = .body frame (.task gate (.question q)) :: rest)
    (hid : gate.id = some id) :
    m.next around =
      resume rest (outcome (do Job.answerQuestion (some id) q; return []) m.state) := by
  rw [next_of_cons hagenda, ← hid]
  rfl

theorem not_poses_of_hasValue (hvalue : m.HasValue ref.scope ref.name) :
    ¬m.Poses around ref := by
  rintro ⟨⟨frame, gate, q, id, rest, hagenda, hid, rfl⟩, hshown⟩
  have hpassed : outcome (Job.answerQuestion (some id) q) m.state = (.ok (), m.state) :=
    Job.outcome_answerQuestion_of_hasId hvalue q
  rw [next_of_question hagenda hid, outcome_bind_ok hpassed] at hshown
  exact hshown rfl

/-- After a question its variable has a value, unless the question has failed. -/
theorem hasValue_next_of_runsQuestion (hruns : m.RunsQuestion ref)
    (hwell : (m.next around).failure = none) :
    (m.next around).HasValue ref.scope ref.name := by
  obtain ⟨frame, gate, q, id, rest, hagenda, hid, rfl⟩ := hruns
  rw [next_of_question hagenda hid] at hwell ⊢
  rcases hout : outcome (Job.answerQuestion (some id) q) m.state with ⟨e | ⟨⟩, t⟩
  · rw [outcome_bind_error hout] at hwell
    cases hwell
  · rw [outcome_bind_ok hout]
    exact Job.hasId_of_answerQuestion hout

theorem not_poses_after {first later : Nat} (ref : VariableRef) (hle : first ≤ later)
    (hvalue : (m.after around first).HasValue ref.scope ref.name) :
    ¬(m.after around later).Poses around ref :=
  not_poses_of_hasValue (value_after around hle hvalue).1

theorem not_poses_of_obtains {first later : Nat} (hlt : first < later)
    (hfirst : (m.after around first).Obtains around ref) :
    ¬(m.after around later).Poses around ref := by
  obtain ⟨⟨hruns, -⟩, hwell⟩ := hfirst
  have hvalue := hasValue_next_of_runsQuestion hruns hwell
  rw [← after_succ] at hvalue
  exact not_poses_after ref hlt hvalue

/-- In a run a variable obtains at most one answer. -/
theorem eq_of_obtains {first later : Nat} (hfirst : (m.after around first).Obtains around ref)
    (hlater : (m.after around later).Obtains around ref) : first = later := by
  rcases Nat.lt_trichotomy first later with hlt | heq | hlt
  · exact absurd hlater.1 (not_poses_of_obtains hlt hfirst)
  · exact heq
  · exact absurd hfirst.1 (not_poses_of_obtains hlt hlater)

end Moment

namespace Repository

/-- The tables that a session may come to hold. -/
inductive Holds (ω : Type) [Repository ω] : VariableTable → Prop where
  | loaded {w : ω} {table : VariableTable} (hload : Repository.loadStore w = .ok table) :
      Holds ω table
  | set {table : VariableTable} {path value : String} (htable : Holds ω table) :
      Holds ω (table.set path value)

/-- What has a value when the store is saved has one when the store is loaded again. -/
class Lasting (ω : Type) [Repository ω] : Prop where
  contains_of_saved : ∀ {table loaded : VariableTable} {before after : ω} {name : String},
    Holds ω table → Repository.saveStore table before = (.ok (), after) →
    Repository.loadStore after = .ok loaded → table.contains name = true →
    loaded.contains name = true

instance {φ : Type} : Lasting (Workplace φ) where
  contains_of_saved := by
    intro table loaded before after name _ hsave hload hname
    obtain ⟨hfailure, rfl⟩ := Workplace.saveStore_eq_ok_iff.mp hsave
    have hstored : Repository.loadStore (Workplace.mk before.files (before.store.save table).2) =
        (before.store.save table).2.load := rfl
    rw [hstored, StoredTable.save, hfailure] at hload
    rcases hreads : before.store.loadFailure with _ | e
    · obtain rfl : table = loaded := by simpa [StoredTable.load, hreads] using hload
      exact hname
    · simp [StoredTable.load, hreads] at hload

end Repository

/-- What a session comes to hold in the store stays among such tables. -/
theorem Errand.Effect.holds [Repository ω] {errand : Errand} {s t : RunState ω}
    (heffect : Effect s t errand) (hholds : Repository.Holds ω s.vars.store) :
    Repository.Holds ω t.vars.store := by
  rcases heffect.vars with hvars | ⟨id, value, -, -, hvars⟩
  · rw [hvars]
    exact hholds
  · rw [hvars, Variables.setId]
    cases (VariableRef.ofJobId id).scope with
    | store => exact hholds.set
    | memory => exact hholds

namespace SessionInput

variable [Repository ω] {i j : SessionInput ω} {table loaded : VariableTable} {name : String}

/-- The session goes well, and the other one finds the store as this one has left it. -/
def HandsOver (i j : SessionInput ω) : Prop :=
  (∃ summary, i.run.1 = .ok summary) ∧
    Repository.loadStore j.files = Repository.loadStore i.run.2.files

/-- The session finds a value of that name in the store, if it can load the store at all. -/
def Recalls (i : SessionInput ω) (name : String) : Prop :=
  ∀ table, Repository.loadStore i.files = .ok table → table.contains name = true

theorem holds_documents (hload : Repository.loadStore i.files = .ok table) :
    Repository.Holds ω (outcome i.documents (i.opening table)).2.vars.store := by
  refine (i.endsAs_documents table).keeps
    (P := fun u : RunState ω => Repository.Holds ω u.vars.store) (fun errand u hu => ?_) ?_
  · exact (Errand.effect_perform i.around errand u).holds hu
  · exact .loaded hload

/-- A value that the store has had at some moment of a session that goes well is there when the
store is loaded again. -/
theorem recalls_of_hasValue [Repository.Lasting ω] {steps : Nat} (hhands : i.HandsOver j)
    (hload : Repository.loadStore i.files = .ok table)
    (hvalue : ((i.outset table).after i.around steps).HasValue .store name) :
    j.Recalls name := by
  obtain ⟨⟨summary, hrun⟩, hstore⟩ := hhands
  intro loaded hloaded
  rw [hstore] at hloaded
  have hcontains :
      (outcome i.documents (i.opening table)).2.vars.store.contains name = true := by
    obtain ⟨more, hlast⟩ := (i.endsAs_documents table).after_add steps
    have hend := (Moment.value_after i.around (Nat.le_add_right steps more) hvalue).1
    rw [hlast, Moment.HasValue, Moment.state_ended] at hend
    exact hend
  have hholds := holds_documents hload
  have hcourse := i.course
  rw [hrun] at hcourse
  generalize i.run.2 = final at hcourse hloaded
  cases hcourse with
  | unsaved other t hother hdocuments hempty =>
      obtain rfl : table = other := Except.ok.inj (hload.symm.trans hother)
      rw [hdocuments, VariableTable.eq_empty_of_isEmpty hempty] at hcontains
      simp [VariableTable.contains, VariableTable.get, VariableTable.empty] at hcontains
  | saved other t files hother hdocuments hfull hsave =>
      obtain rfl : table = other := Except.ok.inj (hload.symm.trans hother)
      rw [hdocuments] at hcontains hholds
      exact Repository.Lasting.contains_of_saved hholds hsave hloaded hcontains

theorem exists_load_of_ok {summary : RunSummary} (hrun : i.run.1 = .ok summary) :
    ∃ table, Repository.loadStore i.files = .ok table := by
  rcases hload : Repository.loadStore i.files with e | table
  · rw [run_of_unread hload] at hrun
    cases hrun
  · exact ⟨table, rfl⟩

theorem Recalls.handsOver [Repository.Lasting ω] (hrecalls : i.Recalls name)
    (hhands : i.HandsOver j) : j.Recalls name := by
  obtain ⟨summary, hrun⟩ := hhands.1
  obtain ⟨table, hload⟩ := exists_load_of_ok hrun
  have hvalue : ((i.outset table).after i.around 0).HasValue .store name := hrecalls table hload
  exact recalls_of_hasValue hhands hload hvalue

theorem recalls_of_hasValue_of_chain [Repository.Lasting ω] {steps : Nat}
    (hchain : Relation.TransGen HandsOver i j)
    (hload : Repository.loadStore i.files = .ok table)
    (hvalue : ((i.outset table).after i.around steps).HasValue .store name) :
    j.Recalls name := by
  induction hchain with
  | single hhands => exact recalls_of_hasValue hhands hload hvalue
  | tail _ hhands ih => exact ih.handsOver hhands

theorem HandsOver.hasValue_next_of_runsQuestion {steps : Nat} (ref : VariableRef)
    (hhands : i.HandsOver j) (hload : Repository.loadStore i.files = .ok table)
    (hruns : ((i.outset table).after i.around steps).RunsQuestion ref) :
    ((i.outset table).after i.around (steps + 1)).HasValue ref.scope ref.name := by
  obtain ⟨summary, hrun⟩ := hhands.1
  have hwell : (outcome i.documents (i.opening table)).1 = .ok () := by
    rcases hdocuments : outcome i.documents (i.opening table) with ⟨e | ⟨⟩, t⟩
    · rw [run_of_loaded hload, outcome_bind_error hdocuments] at hrun
      cases hrun
    · rfl
  have hfailure := (i.endsAs_documents table).failure_eq_none rfl hwell (steps + 1)
  rw [Moment.after_succ] at hfailure ⊢
  exact Moment.hasValue_next_of_runsQuestion hruns hfailure

end SessionInput

/-- In a run each variable obtains at most one answer, wherever its questions stand and with or
without the sigil of the memory.  Over sessions that go well one after the other, a question of the
store that has been passed in one session is never shown in a later one. -/
theorem Session.asks_once [Repository ω] [Repository.Lasting ω] :
    (∀ around agenda (s : RunState ω) ref first later,
      ((Moment.start agenda s).after around first).Obtains around ref →
      ((Moment.start agenda s).after around later).Obtains around ref → first = later) ∧
    (∀ key : List Char, (∀ c ∈ key.head?, Scope.ofSigil? c = none) →
      VariableRef.ofJobId (String.ofList (Scope.memory.sigil :: key)) =
        VariableRef.ofJobId (String.ofList key)) ∧
    (∀ around base definitions jobs (s : RunState ω),
      (Moment.start (jobs.map (.offer (Frame.root base definitions))) s).EndsAs around
        (Job.runAll around (Frame.root base definitions) jobs)) ∧
    (∀ (i : SessionInput ω) table, Repository.loadStore i.files = .ok table →
      i.run = outcome (do i.documents; Session.close) (i.opening table) ∧
        (i.outset table).EndsAs i.around i.documents) ∧
    ∀ (i j : SessionInput ω) table loaded name steps,
      Relation.TransGen SessionInput.HandsOver i j →
      Repository.loadStore i.files = .ok table → Repository.loadStore j.files = .ok loaded →
      ((i.outset table).after i.around steps).RunsQuestion ⟨.store, name⟩ →
      ∀ later, ¬((j.outset loaded).after j.around later).Poses j.around ⟨.store, name⟩ := by
  refine ⟨?_, fun _ => VariableRef.ofJobId_memory, Job.endsAs_runAll, ?_, ?_⟩
  · intro around agenda s ref first later hfirst hlater
    exact Moment.eq_of_obtains hfirst hlater
  · intro i table hload
    exact ⟨SessionInput.run_of_loaded hload, i.endsAs_documents table⟩
  · intro i j table loaded name steps hchain hload hloaded hruns later
    have hvalue : ((i.outset table).after i.around (steps + 1)).HasValue .store name := by
      rcases Relation.TransGen.head'_iff.mp hchain with ⟨next, hhands, -⟩
      exact hhands.hasValue_next_of_runsQuestion ⟨.store, name⟩ hload hruns
    have hrecalls := SessionInput.recalls_of_hasValue_of_chain hchain hload hvalue
    have hstart : ((j.outset loaded).after j.around 0).HasValue .store name :=
      hrecalls loaded hloaded
    exact Moment.not_poses_after ⟨.store, name⟩ (Nat.zero_le later) hstart

namespace Session

/-- A document whose only job asks for the author. -/
def authorText : String :=
  "\x7b\"jobs\":[\x7b\"type\":\"question\",\"id\":\"@author\",\"question\":\"Author?\"," ++
    "\"questionType\":\"ask\"\x7d]\x7d"

def authorJob : Job :=
  .task ⟨some "@author", none, none⟩ (.question ⟨"Author?", none, .ask⟩)

def author : Document where
  name := none
  title := none
  version := none
  description := none
  jobs := [authorJob]
  dependencies := []
  registryDependencies := []
  definitions := []

theorem parse_authorText : Document.parse authorText = .ok author := by
  cbv

/-- The first session is answered; the second one finds what the first one has left, and there is
nobody to answer. -/
def authorFirst : SessionInput (Workplace MemoryFiles) where
  web := ⟨[]⟩
  options := ⟨false, none⟩
  prompter := .script [.text "Ada"]
  source := "author.json"
  files := ⟨MemoryFiles.empty.put ⟨"author.json"⟩ authorText, .ofTable .empty⟩

def authorSecond : SessionInput (Workplace MemoryFiles) :=
  { authorFirst with prompter := .script [], files := authorFirst.run.2.files }

/-- Where the document has been read. -/
def authorRead : RunState (Workplace MemoryFiles) :=
  ((authorFirst.opening .empty).visit "author.json").noted (.read ⟨"author.json"⟩)
    (.ok (.text authorText))

theorem obtain_author :
    outcome (Document.obtain authorFirst.around.web (.local ⟨"author.json"⟩))
      ((authorFirst.opening .empty).visit "author.json") = (.ok author, authorRead) := by
  have hread : outcome (Service.read ⟨"author.json"⟩)
      ((authorFirst.opening .empty).visit "author.json") = (.ok authorText, authorRead) := rfl
  rw [Document.obtain, outcome_bind_ok hread, parse_authorText]
  rfl

theorem run_authorFirst :
    authorFirst.run.1 = .ok ⟨.empty, true⟩ ∧ authorFirst.run.2.prompts = 1 := by
  have hdocuments : outcome authorFirst.documents (authorFirst.opening .empty) =
      outcome (Document.load authorFirst.around none (9999 + 1) (.local ⟨"author.json"⟩))
        ((authorFirst.opening .empty).visit "author.json") := rfl
  have hload : Repository.loadStore authorFirst.files = .ok .empty := rfl
  rw [SessionInput.run_of_loaded hload, outcome_bind, hdocuments, Document.load,
    outcome_bind_ok obtain_author]
  decide

theorem after_authorFirst :
    (authorFirst.outset .empty).after authorFirst.around 3 =
      ⟨[.body (Frame.root none []) authorJob, .record "@author", .registry []], authorRead,
        none⟩ := by
  have hroot : (authorFirst.outset .empty).after authorFirst.around 1 =
      ⟨[.document none (9999 + 1) (.local ⟨"author.json"⟩)],
        (authorFirst.opening .empty).visit "author.json", none⟩ := rfl
  have hread : (authorFirst.outset .empty).after authorFirst.around 2 =
      ⟨[.offer (Frame.root none []) authorJob, .registry []], authorRead, none⟩ := by
    rw [Moment.after_succ, hroot, Moment.next_of_cons rfl, Errand.perform,
      outcome_bind_ok obtain_author]
    rfl
  rw [Moment.after_succ, hread]
  rfl

theorem asks_once_author :
    Relation.TransGen SessionInput.HandsOver authorFirst authorSecond ∧
    ((authorFirst.outset .empty).after authorFirst.around 3).RunsQuestion ⟨.store, "author"⟩ ∧
    ∀ loaded later, Repository.loadStore authorSecond.files = .ok loaded →
      ¬((authorSecond.outset loaded).after authorSecond.around later).Poses
        authorSecond.around ⟨.store, "author"⟩ := by
  have hfiles : authorSecond.files = authorFirst.run.2.files := by
    rw [authorSecond]
  have hhands : SessionInput.HandsOver authorFirst authorSecond :=
    ⟨⟨_, run_authorFirst.1⟩, congrArg Repository.loadStore hfiles⟩
  have hruns :
      ((authorFirst.outset .empty).after authorFirst.around 3).RunsQuestion ⟨.store, "author"⟩ := by
    rw [after_authorFirst]
    exact ⟨_, _, _, "@author", _, rfl, rfl, rfl⟩
  have honce := (asks_once (ω := Workplace MemoryFiles)).2.2.2.2
  refine ⟨.single hhands, hruns, fun loaded later hloaded => ?_⟩
  exact honce authorFirst authorSecond .empty loaded "author" 3 (.single hhands) rfl hloaded hruns
    later

end Session
end Scaffold
