import Scaffold.Proofs.Agenda
import Scaffold.Run.Session

/-!
# Sessions step by step

A session loads the store, works off its documents from there, and saves the store in the end.  What
can become of it depends on these three parts alone.
-/

namespace Scaffold

open Run

variable {ω : Type}

namespace Session

theorem outcome_loadStore [Repository ω] (s : RunState ω) :
    outcome loadStore s =
      (Repository.loadStore s.files,
        s.noted .loadStore ((Repository.loadStore s.files).map Replies.reply)) := by
  simp [loadStore]

theorem outcome_saveStore [Repository ω] (table : VariableTable) (s : RunState ω) :
    outcome (saveStore table) s =
      ((Repository.saveStore table s.files).1,
        { s with files := (Repository.saveStore table s.files).2 }.noted (.saveStore table)
          ((Repository.saveStore table s.files).1.map Replies.reply)) := by
  simp [saveStore]

variable [Repository ω] {s : RunState ω}

theorem outcome_close_of_isEmpty (hempty : s.vars.store.isEmpty = true) :
    outcome close s = (.ok ⟨s.pending, false⟩, s) := by
  unfold close
  rw [outcome_get_bind]
  simp only [hempty]
  rfl

theorem outcome_close_of_not_isEmpty (hfull : s.vars.store.isEmpty = false) :
    outcome close s =
      outcome (do
        saveStore s.vars.store
        return ⟨(← get).pending, true⟩) s := by
  unfold close
  rw [outcome_get_bind]
  simp only [hfull]
  rfl

end Session

/-- What a session is given. -/
structure SessionInput (ω : Type) where
  web : Web
  options : RunOptions
  prompter : Prompter
  source : String
  /-- The files as they are found, with the store among them. -/
  files : ω

namespace SessionInput

/-- The state before anything has been done. -/
def fresh (i : SessionInput ω) : RunState ω :=
  RunState.start (.withStore .empty) i.files i.prompter

/-- Where the documents start, when that table has been loaded. -/
def opening (i : SessionInput ω) (table : VariableTable) : RunState ω :=
  { i.fresh.noted .loadStore (.ok (.table table)) with vars := .withStore table }

def around (i : SessionInput ω) : Surroundings := ⟨i.web, i.options.force⟩

/-- The moment at which the documents start. -/
def outset (i : SessionInput ω) (table : VariableTable) : Moment ω :=
  Moment.start [.root i.options.extendPath i.source] (i.opening table)

variable [FileTree ω]

def documents (i : SessionInput ω) : Run ω Unit :=
  Document.loadRoot i.around i.options.extendPath i.source

theorem endsAs_documents (i : SessionInput ω) (table : VariableTable) :
    (i.outset table).EndsAs i.around i.documents :=
  Document.endsAs_loadRoot i.around i.options.extendPath i.source (i.opening table)

variable [Repository ω]

def run (i : SessionInput ω) : Except RunError RunSummary × RunState ω :=
  Session.runFrom i.web i.options i.prompter i.source i.files

variable {i : SessionInput ω} {table : VariableTable} {e : RunError}

theorem run_of_unread (hload : Repository.loadStore i.files = .error e) :
    i.run = (.error e, i.fresh.noted .loadStore (.error e)) := by
  have hfailed : outcome Session.loadStore i.fresh =
      (.error e, i.fresh.noted .loadStore (.error e)) := by
    rw [Session.outcome_loadStore, fresh, RunState.start, hload]
    rfl
  exact outcome_bind_error hfailed _

theorem run_of_loaded (hload : Repository.loadStore i.files = .ok table) :
    i.run = outcome (do i.documents; Session.close) (i.opening table) := by
  have hloaded : outcome Session.loadStore i.fresh =
      (.ok table, i.fresh.noted .loadStore (.ok (.table table))) := by
    rw [Session.outcome_loadStore, fresh, RunState.start, hload]
    rfl
  exact outcome_bind_ok hloaded _

/-- What can become of a session. -/
inductive Course (i : SessionInput ω) :
    Except RunError RunSummary → RunState ω → Prop where
  | unread (e : RunError) (hload : Repository.loadStore i.files = .error e) :
      Course i (.error e) (i.fresh.noted .loadStore (.error e))
  | failed (table : VariableTable) (e : RunError) (t : RunState ω)
      (hload : Repository.loadStore i.files = .ok table)
      (hdocuments : outcome i.documents (i.opening table) = (.error e, t)) :
      Course i (.error e) t
  | unsaved (table : VariableTable) (t : RunState ω)
      (hload : Repository.loadStore i.files = .ok table)
      (hdocuments : outcome i.documents (i.opening table) = (.ok (), t))
      (hempty : t.vars.store.isEmpty = true) : Course i (.ok ⟨t.pending, false⟩) t
  | saved (table : VariableTable) (t : RunState ω) (files : ω)
      (hload : Repository.loadStore i.files = .ok table)
      (hdocuments : outcome i.documents (i.opening table) = (.ok (), t))
      (hfull : t.vars.store.isEmpty = false)
      (hsave : Repository.saveStore t.vars.store t.files = (.ok (), files)) :
      Course i (.ok ⟨t.pending, true⟩)
        ({ t with files }.noted (.saveStore t.vars.store) (.ok .done))
  | refused (table : VariableTable) (t : RunState ω) (e : RunError) (files : ω)
      (hload : Repository.loadStore i.files = .ok table)
      (hdocuments : outcome i.documents (i.opening table) = (.ok (), t))
      (hfull : t.vars.store.isEmpty = false)
      (hsave : Repository.saveStore t.vars.store t.files = (.error e, files)) :
      Course i (.error e) ({ t with files }.noted (.saveStore t.vars.store) (.error e))

theorem course (i : SessionInput ω) : Course i i.run.1 i.run.2 := by
  rcases hload : Repository.loadStore i.files with e | table
  · rw [run_of_unread hload]
    exact .unread e hload
  · rw [run_of_loaded hload]
    rcases hdocuments : outcome i.documents (i.opening table) with ⟨e | ⟨⟩, t⟩
    · rw [outcome_bind_error hdocuments]
      exact .failed table e t hload hdocuments
    · rw [outcome_bind_ok hdocuments]
      by_cases hempty : t.vars.store.isEmpty = true
      · rw [Session.outcome_close_of_isEmpty hempty]
        exact .unsaved table t hload hdocuments hempty
      · have hfull := (Bool.not_eq_true _).mp hempty
        have hout := Session.outcome_saveStore t.vars.store t
        rw [Session.outcome_close_of_not_isEmpty hfull]
        rcases hsave : Repository.saveStore t.vars.store t.files with ⟨e | ⟨⟩, files⟩
        · rw [hsave] at hout
          rw [outcome_bind_error hout]
          exact .refused table t e files hload hdocuments hfull hsave
        · rw [hsave] at hout
          rw [outcome_bind_ok hout]
          exact .saved table t files hload hdocuments hfull hsave

end SessionInput
end Scaffold
