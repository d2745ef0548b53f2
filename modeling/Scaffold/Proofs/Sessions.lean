import Mathlib.Data.List.Permutation
import Scaffold.Proofs.Gains
import Scaffold.Proofs.SessionSteps
import Scaffold.Run.Workspace

/-!
# The store between sessions

A session that goes well leaves its last table in the store, also when it saves nothing: a table
that is empty in the end has been empty from the start.  A session that fails leaves the store as it
was.
-/

namespace Scaffold

open Run

namespace Fields

theorem insert_ne_nil (key : String) (value : Json) (fields : Fields) :
    insert key value fields ≠ [] := by
  cases fields with
  | nil => simp [insert]
  | cons field rest =>
      unfold insert
      split <;> simp

end Fields

namespace VariableTable

theorem assign_ne_nil {path : List String} (hpath : path ≠ []) (value : String)
    (fields : Fields) : assign value path fields ≠ [] := by
  cases path with
  | nil => exact absurd rfl hpath
  | cons segment rest =>
      by_cases hrest : rest = []
      · subst hrest
        exact Fields.insert_ne_nil _ _ _
      · rw [assign_cons hrest]
        exact Fields.insert_ne_nil _ _ _

theorem eq_empty_of_isEmpty {table : VariableTable} (hempty : table.isEmpty = true) :
    table = .empty := by
  obtain ⟨fields⟩ := table
  have hfields : fields = [] := by simpa [isEmpty] using hempty
  rw [hfields]
  rfl

theorem isEmpty_set (table : VariableTable) (path value : String) :
    (table.set path value).isEmpty = false := by
  have hfields := assign_ne_nil (segments_ne_nil path) value table.fields
  simpa [isEmpty, set] using hfields

end VariableTable

namespace Errand.Effect

variable {ω : Type} [FileTree ω] {errand : Errand} {s t : RunState ω}

/-- Nothing takes the last entry out of the store. -/
theorem store_isEmpty (heffect : Effect s t errand) (hstore : s.vars.store.isEmpty = false) :
    t.vars.store.isEmpty = false := by
  rcases heffect.vars with hvars | ⟨id, value, -, -, hvars⟩
  · rw [hvars]
    exact hstore
  · rw [hvars, Variables.setId]
    cases (VariableRef.ofJobId id).scope with
    | store => exact VariableTable.isEmpty_set _ _ _
    | memory => exact hstore

end Errand.Effect

namespace Document

variable {ω γ : Type} [FileTree ω] (around : Surroundings) (extend : Option String)
  (text : String) (s : RunState ω)

theorem isEmpty_loadRoot
    (hempty : (outcome (loadRoot around extend text) s).2.vars.store.isEmpty = true) :
    s.vars.store.isEmpty = true := by
  by_contra hstart
  have hkept := (endsAs_loadRoot around extend text s).keeps
    (P := fun u : RunState ω => u.vars.store.isEmpty = false)
    (fun errand u hu => (Errand.effect_perform around errand u).store_isEmpty hu)
    ((Bool.not_eq_true _).mp hstart)
  exact absurd (hempty.symm.trans hkept) (by simp)

/-- What no call changes about the files is as it was. -/
theorem aspect_loadRoot {aspect : ω → γ}
    (happly : ∀ (call : ServiceCall) (w : ω), aspect (call.apply w) = aspect w) :
    aspect (outcome (loadRoot around extend text) s).2.files = aspect s.files := by
  refine (endsAs_loadRoot around extend text s).keeps
    (P := fun u : RunState ω => aspect u.files = aspect s.files) (fun errand u hu => ?_) rfl
  rcases (Errand.effect_perform around errand u).files with hfiles | ⟨-, call, hfiles⟩
  · rw [hfiles]
    exact hu
  · rw [hfiles, happly]
    exact hu

end Document

variable {φ : Type}

theorem Workplace.store_apply [FileTree φ] (call : ServiceCall) (w : Workplace φ) :
    (call.apply w).store = w.store := by
  cases call <;> rfl

namespace Workplace

variable {table : VariableTable} {w after : Workplace φ}

theorem saveStore_eq (table : VariableTable) (w : Workplace φ) :
    Repository.saveStore table w =
      ((w.store.save table).1, { w with store := (w.store.save table).2 }) := rfl

theorem saveStore_eq_ok_iff :
    Repository.saveStore table w = (.ok (), after) ↔
      w.store.saveFailure = none ∧ after = { w with store := (w.store.save table).2 } := by
  rw [saveStore_eq, StoredTable.save]
  cases w.store.saveFailure <;> simp [eq_comm]

theorem saveStore_eq_error {e : RunError}
    (hsave : Repository.saveStore table w = (.error e, after)) : after.store = w.store := by
  rw [saveStore_eq, StoredTable.save] at hsave
  cases hfailure : w.store.saveFailure with
  | none => simp [hfailure] at hsave
  | some refusal =>
      rw [hfailure] at hsave
      obtain ⟨-, rfl⟩ := Prod.mk.inj hsave
      rfl

end Workplace

/-- What a session is given, but for the store. -/
structure SessionPlan (φ : Type) where
  web : Web
  options : RunOptions
  prompter : Prompter
  source : String
  files : φ
  loadFailure : Option RunError
  saveFailure : Option RunError

namespace SessionPlan

/-- The files of the plan beside the store, which fails as the plan has it. -/
def workplace (plan : SessionPlan φ) (store : StoredTable) : Workplace φ :=
  ⟨plan.files,
    { store with loadFailure := plan.loadFailure, saveFailure := plan.saveFailure }⟩

variable {plan : SessionPlan φ} {store : StoredTable} {e : RunError}

theorem load_workplace :
    Repository.loadStore (plan.workplace store) =
      match plan.loadFailure with
      | none => .ok store.table
      | some e => .error e := rfl

theorem load_eq_ok_iff {table : VariableTable} :
    Repository.loadStore (plan.workplace store) = .ok table ↔
      plan.loadFailure = none ∧ store.table = table := by
  rw [load_workplace]
  cases plan.loadFailure <;> simp

theorem load_eq_error_iff :
    Repository.loadStore (plan.workplace store) = .error e ↔ plan.loadFailure = some e := by
  rw [load_workplace]
  cases plan.loadFailure <;> simp

/-- Where the documents of the session start. -/
def opening (plan : SessionPlan φ) (store : StoredTable) : RunState (Workplace φ) :=
  { (RunState.start (.withStore .empty) (plan.workplace store) plan.prompter).noted
      .loadStore (.ok (.table store.table)) with vars := .withStore store.table }

variable [FileTree φ]

def run (plan : SessionPlan φ) (store : StoredTable) :
    Except RunError RunSummary × RunState (Workplace φ) :=
  Session.runFrom plan.web plan.options plan.prompter plan.source (plan.workplace store)

/-- The store after the session. -/
def leave (plan : SessionPlan φ) (store : StoredTable) : StoredTable :=
  (plan.run store).2.files.store

/-- The store after sessions in a row. -/
def leaveAll (plans : List (SessionPlan φ)) (store : StoredTable) : StoredTable :=
  plans.foldl (fun store plan => plan.leave store) store

def loadDocuments (plan : SessionPlan φ) : Run (Workplace φ) Unit :=
  Document.loadRoot ⟨plan.web, plan.options.force⟩ plan.options.extendPath plan.source

/-- The plan beside that store, as the input of a session. -/
def input (plan : SessionPlan φ) (store : StoredTable) : SessionInput (Workplace φ) :=
  ⟨plan.web, plan.options, plan.prompter, plan.source, plan.workplace store⟩

theorem run_of_loaded (hload : plan.loadFailure = none) :
    plan.run store = outcome (do plan.loadDocuments; Session.close) (plan.opening store) :=
  SessionInput.run_of_loaded (i := plan.input store) (load_eq_ok_iff.mpr ⟨hload, rfl⟩)

/-- What can become of a session. -/
inductive Course (plan : SessionPlan φ) (store : StoredTable) :
    Except RunError RunSummary → RunState (Workplace φ) → Prop where
  | unread (e : RunError) (t : RunState (Workplace φ)) (hload : plan.loadFailure = some e)
      (hfiles : t.files = plan.workplace store) : Course plan store (.error e) t
  | failed (e : RunError) (t : RunState (Workplace φ))
      (hdocuments : outcome plan.loadDocuments (plan.opening store) = (.error e, t)) :
      Course plan store (.error e) t
  | unsaved (t : RunState (Workplace φ))
      (hdocuments : outcome plan.loadDocuments (plan.opening store) = (.ok (), t))
      (hempty : t.vars.store.isEmpty = true) : Course plan store (.ok ⟨t.pending, false⟩) t
  | saved (t u : RunState (Workplace φ))
      (hdocuments : outcome plan.loadDocuments (plan.opening store) = (.ok (), t))
      (hfull : t.vars.store.isEmpty = false) (hvars : u.vars = t.vars)
      (hstore : u.files.store = (t.files.store.save t.vars.store).2)
      (hsaved : t.files.store.saveFailure = none) : Course plan store (.ok ⟨t.pending, true⟩) u
  | refused (e : RunError) (t u : RunState (Workplace φ))
      (hdocuments : outcome plan.loadDocuments (plan.opening store) = (.ok (), t))
      (hstore : u.files.store = t.files.store) : Course plan store (.error e) u

theorem course (plan : SessionPlan φ) (store : StoredTable) :
    Course plan store (plan.run store).1 (plan.run store).2 := by
  have hcourse : SessionInput.Course (plan.input store) (plan.run store).1 (plan.run store).2 :=
    (plan.input store).course
  generalize (plan.run store).1 = result, (plan.run store).2 = final at hcourse ⊢
  cases hcourse with
  | unread e hload => exact .unread e _ (load_eq_error_iff.mp hload) rfl
  | failed table e _ hload hdocuments =>
      obtain ⟨-, rfl⟩ := load_eq_ok_iff.mp hload
      exact .failed e _ hdocuments
  | unsaved table t hload hdocuments hempty =>
      obtain ⟨-, rfl⟩ := load_eq_ok_iff.mp hload
      exact .unsaved _ hdocuments hempty
  | saved table t files hload hdocuments hfull hsave =>
      obtain ⟨-, rfl⟩ := load_eq_ok_iff.mp hload
      obtain ⟨hsaved, rfl⟩ := Workplace.saveStore_eq_ok_iff.mp hsave
      exact .saved t _ hdocuments hfull rfl rfl hsaved
  | refused table t e files hload hdocuments hfull hsave =>
      obtain ⟨-, rfl⟩ := load_eq_ok_iff.mp hload
      have hstore := Workplace.saveStore_eq_error hsave
      exact .refused e t _ hdocuments hstore

theorem store_documents {r : Except RunError Unit} {t : RunState (Workplace φ)}
    (hdocuments : outcome plan.loadDocuments (plan.opening store) = (r, t)) :
    t.files.store = (plan.workplace store).store := by
  have hkept := Document.aspect_loadRoot ⟨plan.web, plan.options.force⟩ plan.options.extendPath
    plan.source (plan.opening store) Workplace.store_apply
  rw [← loadDocuments, hdocuments] at hkept
  exact hkept

theorem table_of_isEmpty {r : Except RunError Unit} {t : RunState (Workplace φ)}
    (hdocuments : outcome plan.loadDocuments (plan.opening store) = (r, t))
    (hempty : t.vars.store.isEmpty = true) : store.table = t.vars.store := by
  have hstart := Document.isEmpty_loadRoot ⟨plan.web, plan.options.force⟩ plan.options.extendPath
    plan.source (plan.opening store)
  rw [← loadDocuments, hdocuments] at hstart
  have hopening : store.table = .empty := VariableTable.eq_empty_of_isEmpty (hstart hempty)
  rw [hopening, VariableTable.eq_empty_of_isEmpty hempty]

theorem leave_of_ok {summary : RunSummary} (hrun : (plan.run store).1 = .ok summary) :
    (plan.leave store).table = (plan.run store).2.vars.store ∧
      (plan.leave store).saves =
        store.saves + if (plan.run store).2.vars.store.isEmpty then 0 else 1 := by
  have hcourse := plan.course store
  rw [hrun] at hcourse
  unfold leave
  generalize (plan.run store).2 = final at hcourse ⊢
  cases hcourse with
  | unsaved _ hdocuments hempty =>
      have hstore := store_documents hdocuments
      rw [hstore, hempty]
      exact ⟨table_of_isEmpty hdocuments hempty, rfl⟩
  | saved t _ hdocuments hfull hvars hstore hsaved =>
      have hkept := store_documents hdocuments
      rw [hstore, hvars, hfull, StoredTable.save, hsaved, hkept]
      exact ⟨rfl, rfl⟩

theorem leave_of_error (hrun : (plan.run store).1 = .error e) :
    (plan.leave store).table = store.table ∧ (plan.leave store).saves = store.saves := by
  have hcourse := plan.course store
  rw [hrun] at hcourse
  unfold leave
  generalize (plan.run store).2 = final at hcourse ⊢
  cases hcourse with
  | unread _ _ hload hfiles =>
      rw [hfiles]
      exact ⟨rfl, rfl⟩
  | failed _ _ hdocuments =>
      rw [store_documents hdocuments]
      exact ⟨rfl, rfl⟩
  | refused _ t _ hdocuments hstore =>
      rw [hstore, store_documents hdocuments]
      exact ⟨rfl, rfl⟩

end SessionPlan

/-- Sessions in a row: each starts from the table that the one before has left and with nothing in
memory.  What it ends with is in the store when it has gone well, and the store is as it was when it
has failed. -/
theorem Session.store_persists [FileTree φ] (store : StoredTable)
    (earlier : List (SessionPlan φ)) (plan : SessionPlan φ) :
    let before := SessionPlan.leaveAll earlier store
    let after := SessionPlan.leaveAll (earlier ++ [plan]) store
    let final := (plan.run before).2.vars.store
    (plan.opening before).vars = ⟨.empty, before.table⟩ ∧
    (plan.loadFailure = none →
      plan.run before = outcome (do plan.loadDocuments; Session.close) (plan.opening before)) ∧
    (∀ summary, (plan.run before).1 = .ok summary →
      after.table = final ∧ after.saves = before.saves + if final.isEmpty then 0 else 1) ∧
    ∀ e, (plan.run before).1 = .error e →
      after.table = before.table ∧ after.saves = before.saves := by
  intro before after final
  have hafter : after = plan.leave before := by
    simp only [after, before, SessionPlan.leaveAll, List.foldl_append, List.foldl_cons,
      List.foldl_nil]
  rw [hafter]
  exact ⟨rfl, SessionPlan.run_of_loaded, fun _ => SessionPlan.leave_of_ok,
    fun _ => SessionPlan.leave_of_error⟩

namespace Session

/-- A document whose only job leaves a mark in the store. -/
def noteText : String :=
  "\x7b\"jobs\":[\x7b\"type\":\"log\",\"message\":\"hello\",\"id\":\"@seen\"\x7d]\x7d"

def notePlan (source : String) : SessionPlan MemoryFiles where
  web := ⟨[]⟩
  options := ⟨false, none⟩
  prompter := .script []
  source := source
  files := MemoryFiles.empty.put ⟨"note.json"⟩ noteText
  loadFailure := none
  saveFailure := none

def note : Document where
  name := none
  title := none
  version := none
  description := none
  jobs := [.task ⟨some "@seen", none, none⟩ (.log .log "hello")]
  dependencies := []
  registryDependencies := []
  definitions := []

theorem parse_noteText : Document.parse noteText = .ok note := by
  cbv

/-- Where the document of the note has been read. -/
def noteRead : RunState (Workplace MemoryFiles) :=
  (((notePlan "note.json").opening (.ofTable .empty)).visit "note.json").noted
    (.read ⟨"note.json"⟩) (.ok (.text noteText))

theorem obtain_note :
    outcome (Document.obtain ⟨[]⟩ (.local ⟨"note.json"⟩))
      (((notePlan "note.json").opening (.ofTable .empty)).visit "note.json") =
      (.ok note, noteRead) := by
  have hread : outcome (Service.read ⟨"note.json"⟩)
      (((notePlan "note.json").opening (.ofTable .empty)).visit "note.json") =
      (.ok noteText, noteRead) := rfl
  rw [Document.obtain, outcome_bind_ok hread, parse_noteText]
  rfl

theorem run_notePlan :
    ((notePlan "note.json").run (.ofTable .empty)).1 = .ok ⟨.empty, true⟩ := by
  have hdocuments : outcome (notePlan "note.json").loadDocuments
      ((notePlan "note.json").opening (.ofTable .empty)) =
      outcome (Document.load ⟨⟨[]⟩, false⟩ none (9999 + 1) (.local ⟨"note.json"⟩))
        (((notePlan "note.json").opening (.ofTable .empty)).visit "note.json") := rfl
  rw [SessionPlan.run_of_loaded rfl, outcome_bind, hdocuments, Document.load,
    outcome_bind_ok obtain_note]
  decide

/-- A session whose document is missing, and then one that leaves a mark. -/
theorem store_persists_note :
    let before := SessionPlan.leaveAll [notePlan "nowhere.json"] (.ofTable .empty)
    let after := SessionPlan.leaveAll [notePlan "nowhere.json", notePlan "note.json"]
      (.ofTable .empty)
    let final := ((notePlan "note.json").run before).2.vars.store
    ((notePlan "note.json").run before).1 = .ok ⟨.empty, true⟩ ∧
      after.table = final ∧ after.saves = before.saves + if final.isEmpty then 0 else 1 := by
  have hrun : ((notePlan "note.json").run
      (SessionPlan.leaveAll [notePlan "nowhere.json"] (.ofTable .empty))).1 =
      .ok ⟨.empty, true⟩ := run_notePlan
  have hpersists := store_persists (.ofTable .empty) [notePlan "nowhere.json"]
    (notePlan "note.json")
  exact ⟨hrun, hpersists.2.2.1 _ hrun⟩

end Session
end Scaffold
