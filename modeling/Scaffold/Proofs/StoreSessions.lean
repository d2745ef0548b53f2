import Scaffold.Proofs.Questions
import Scaffold.Proofs.StoreFiles

/-!
# Sessions on a disk and the store they leave

The table that a session has saved is what the next one loads, when all its variables are within
reach of the reader.  An id of the store with more segments than that makes a session save a store
that no later session can load.
-/

namespace Scaffold

open Run
open Json (Everywhere Tidy ReadsBack Nests Reloads nestingLimit)

namespace Project

variable {p after : Project} {table loaded : VariableTable}

theorem store_apply (call : ServiceCall) (p : Project) : (call.apply p).store = p.store := by
  cases call <;> rfl

theorem loadStore_eq (p : Project) : Repository.loadStore p = p.store.load p.files.disk := rfl

theorem saveStore_eq_ok (hsave : Repository.saveStore table p = (.ok (), after)) :
    p.store.save table p.files.disk = (.ok (), after.files.disk) ∧ after.store = p.store := by
  have hboth : Repository.saveStore table p =
      ((p.store.save table p.files.disk).1,
        { p with files := { p.files with disk := (p.store.save table p.files.disk).2 } }) := rfl
  rw [hboth] at hsave
  obtain ⟨hout, rfl⟩ := Prod.mk.inj hsave
  exact ⟨Prod.ext hout rfl, rfl⟩

theorem loadStore_of_saved (hsave : Repository.saveStore table p = (.ok (), after)) :
    Repository.loadStore after = after.store.parse (StoreFile.text table) := by
  obtain ⟨hsaved, hstore⟩ := saveStore_eq_ok hsave
  rw [loadStore_eq, hstore, StoreFile.load_of_save hsaved]

theorem tidy_of_holds (hholds : Repository.Holds Project table) :
    table.toJson.Everywhere Tidy := by
  induction hholds with
  | loaded hload => exact (StoreFile.wellFormed_of_load hload).1
  | @set table path value _ ih => exact VariableTable.tidy_assign (VariableTable.segments path) ih

theorem loadStore_of_saved_iff (hholds : Repository.Holds Project table)
    (hsave : Repository.saveStore table p = (.ok (), after)) :
    Repository.loadStore after = .ok loaded ↔
      Reloads nestingLimit table.toJson loaded.toJson := by
  rw [loadStore_of_saved hsave, StoreFile.parse_text_iff (tidy_of_holds hholds)]

instance : Repository.Lasting Project where
  contains_of_saved := fun hholds hsave hload hname =>
    VariableTable.contains_of_reloads ((loadStore_of_saved_iff hholds hsave).mp hload) hname

variable (hholds : Repository.Holds Project table)
  (hsave : Repository.saveStore table p = (.ok (), after))

include hholds hsave

theorem loadStore_self_iff (hgraded : table.Graded) :
    Repository.loadStore after = .ok table ↔ table.Shallow ∧ table.toJson.Everywhere ReadsBack := by
  rw [loadStore_of_saved_iff hholds hsave, Json.reloads_self_iff (tidy_of_holds hholds),
    hgraded.nests_iff]

theorem exists_failure_of_not_shallow (hdeep : ¬table.Shallow) :
    ∃ reason, Repository.loadStore after = .error (p.store.failure reason) := by
  have hstore := (saveStore_eq_ok hsave).2
  rcases after.store.load_eq_ok_or_failure after.files.disk with ⟨loaded, hload⟩ | hfailure
  · have hreloads := (loadStore_of_saved_iff hholds hsave).mp hload
    exact absurd (VariableTable.shallow_of_nests (Json.nests_of_reloads hreloads)) hdeep
  · rw [hstore] at hfailure
    obtain ⟨reason, hload⟩ := hfailure
    exact ⟨reason, by rw [loadStore_eq, hstore, hload]⟩

end Project

theorem Errand.Effect.graded {ω : Type} [FileTree ω] {errand : Errand} {s t : RunState ω}
    (heffect : Effect s t errand) (hgraded : s.vars.store.Graded) :
    t.vars.store.Graded := by
  rcases heffect.vars with hvars | ⟨id, value, -, hundefined, hvars⟩
  · rw [hvars]
    exact hgraded
  · rw [hvars, Variables.setId]
    rcases href : VariableRef.ofJobId id with ⟨scope, name⟩
    cases scope with
    | memory => exact hgraded
    | store =>
        refine hgraded.set ?_
        simpa [Variables.HasId, href, Variables.isDefined, Variables.table] using hundefined

namespace SessionInput

variable {i : SessionInput Project} {table : VariableTable} {summary : RunSummary}

theorem graded_documents (hload : Repository.loadStore i.files = .ok table) :
    (outcome i.documents (i.opening table)).2.vars.store.Graded := by
  refine (i.endsAs_documents table).keeps
    (P := fun u : RunState Project => u.vars.store.Graded) (fun errand u hu => ?_) ?_
  · exact (Errand.effect_perform i.around errand u).graded hu
  · exact Or.inl (StoreFile.wellFormed_of_load hload).2

theorem store_documents (i : SessionInput Project) (table : VariableTable) :
    (outcome i.documents (i.opening table)).2.files.store = i.files.store :=
  Document.aspect_loadRoot i.around i.options.extendPath i.source (i.opening table)
    Project.store_apply

theorem empty_of_unsaved {t : RunState Project} (i : SessionInput Project)
    (hdocuments : outcome i.documents (i.opening table) = (.ok (), t))
    (hempty : t.vars.store.isEmpty = true) : table = .empty := by
  have hstart := Document.isEmpty_loadRoot i.around i.options.extendPath i.source (i.opening table)
  have hlast : (outcome i.documents (i.opening table)).2.vars.store.isEmpty = true := by
    rw [hdocuments]
    exact hempty
  exact VariableTable.eq_empty_of_isEmpty (hstart hlast)

/-- The store is saved last, from the table that the session ends with. -/
theorem saved_of_ok (hrun : i.run.1 = .ok summary) (hsaved : summary.storeSaved = true) :
    ∃ before : Project, before.store = i.files.store ∧
      Repository.saveStore i.run.2.vars.store before = (.ok (), i.run.2.files) ∧
      Repository.Holds Project i.run.2.vars.store ∧ i.run.2.vars.store.Graded := by
  have hcourse := i.course
  rw [hrun] at hcourse
  generalize i.run.2 = last at hcourse ⊢
  cases hcourse with
  | unsaved => cases hsaved
  | saved table t files hload hdocuments hfull hsave =>
      have hholds := holds_documents hload
      have hgraded := graded_documents hload
      have hstore := i.store_documents table
      rw [hdocuments] at hholds hgraded hstore
      exact ⟨t.files, hstore, hsave, hholds, hgraded⟩

/-- One variable beyond the reach of the reader is enough for the store to be refused. -/
theorem exists_failure_of_contains {name : String} (hrun : i.run.1 = .ok summary)
    (hsaved : summary.storeSaved = true) (hname : i.run.2.vars.store.contains name = true)
    (hlong : nestingLimit < (VariableTable.segments name).length) :
    ∃ reason, Repository.loadStore i.run.2.files = .error (i.files.store.failure reason) := by
  obtain ⟨before, hstore, hsave, hholds, -⟩ := saved_of_ok hrun hsaved
  rw [← hstore]
  exact Project.exists_failure_of_not_shallow hholds hsave fun hshallow =>
    absurd (hshallow name hname) (not_le.mpr hlong)

/-- A store that is not saved has been empty all the time. -/
theorem unsaved_of_ok (hrun : i.run.1 = .ok summary) (hunsaved : summary.storeSaved = false) :
    i.run.2.vars.store = .empty ∧ Repository.loadStore i.files = .ok .empty ∧
      i.run.2.files.store = i.files.store := by
  have hcourse := i.course
  rw [hrun] at hcourse
  generalize i.run.2 = last at hcourse ⊢
  cases hcourse with
  | unsaved table _ hload hdocuments hempty =>
      have hstore := i.store_documents table
      rw [hdocuments] at hstore
      exact ⟨VariableTable.eq_empty_of_isEmpty hempty,
        i.empty_of_unsaved hdocuments hempty ▸ hload, hstore⟩
  | saved => cases hunsaved

end SessionInput

/-- The store that a session has saved is loaded as what its table is read back as, which is the
table itself if its variables are within reach and its real numbers are read back.  A session that
saves nothing ends with the empty table, and what is loaded is what is found then at the place of
the store. -/
theorem Session.saved_store_reloads {i : SessionInput Project} {summary : RunSummary}
    (hrun : i.run.1 = .ok summary) :
    let final := i.run.2.vars.store
    let left := Repository.loadStore i.run.2.files
    (summary.storeSaved = true →
      (∀ loaded, left = .ok loaded ↔ Reloads nestingLimit final.toJson loaded.toJson) ∧
      (left = .ok final ↔ final.Shallow ∧ final.toJson.Everywhere ReadsBack) ∧
      (¬final.Shallow → ∃ reason, left = .error (i.files.store.failure reason))) ∧
    (summary.storeSaved = false → final = .empty ∧
      (i.run.2.files.files.disk.find i.files.store.path =
          i.files.files.disk.find i.files.store.path → left = .ok final)) := by
  intro final left
  refine ⟨fun hsaved => ?_, fun hunsaved => ?_⟩
  · obtain ⟨before, hstore, hsave, hholds, hgraded⟩ := SessionInput.saved_of_ok hrun hsaved
    refine ⟨fun loaded => Project.loadStore_of_saved_iff hholds hsave,
      Project.loadStore_self_iff hholds hsave hgraded, fun hdeep => ?_⟩
    rw [← hstore]
    exact Project.exists_failure_of_not_shallow hholds hsave hdeep
  · obtain ⟨hfinal, hload, hstore⟩ := SessionInput.unsaved_of_ok hrun hunsaved
    refine ⟨hfinal, fun hfind => ?_⟩
    have hleft : left = .ok .empty := by
      simp only [left]
      rw [Project.loadStore_eq, hstore, StoreFile.load_congr hfind]
      exact hload
    rw [hleft, ← hfinal]

namespace Session

/-- A job that leaves a mark. -/
def markJob (id : String) : Job := .task ⟨some id, none, none⟩ (.log .log "hi")

def mark (id : String) : Document where
  name := none
  title := none
  version := none
  description := none
  jobs := [markJob id]
  dependencies := []
  registryDependencies := []
  definitions := []

def markJson (id : String) : Json :=
  .object [("jobs", .array [.object [("type", .string "log"), ("message", .string "hi"),
    ("id", .string id)]])]

theorem everywhere_markJson {P : Json → Prop} {id : String} (hstring : ∀ s, P (.string s))
    (harray : ∀ items, P (.array items))
    (hobject : ∀ fields, (fields.map Prod.fst).Nodup → P (.object fields)) :
    (markJson id).Everywhere P := by
  refine .object (hobject _ (by simp)) fun field hfield => ?_
  obtain rfl := List.mem_singleton.mp hfield
  refine .array (harray _) fun v hv => ?_
  obtain rfl := List.mem_singleton.mp hv
  refine .object (hobject _ (by simp)) fun field hfield => ?_
  simp only [List.mem_cons, List.not_mem_nil, or_false] at hfield
  rcases hfield with rfl | rfl | rfl <;> exact .string (hstring _)

theorem parse_markJson (id : String) : Document.parse (markJson id).pretty = .ok (mark id) := by
  have htidy : (markJson id).Everywhere Tidy :=
    everywhere_markJson (fun _ => trivial) (fun _ => trivial) fun _ hkeys => hkeys
  have hback : (markJson id).Everywhere ReadsBack :=
    everywhere_markJson (fun _ => trivial) (fun _ => trivial) fun _ _ => trivial
  have hparse : Json.parse (markJson id).pretty = .ok (markJson id) :=
    (Json.parse_pretty_iff htidy).mpr ((Json.reloads_self_iff htidy).mpr
      ⟨by simp [markJson, Nests, nestingLimit], hback⟩)
  rw [Document.parse, hparse]
  cbv

/-- A directory with one document in it and no store file yet. -/
def deskDisk (text : String) : Disk :=
  (Disk.rootedAt ["home"]).put ["home", "mark.json"] (.file text)

def desk (text : String) : SessionInput Project where
  web := ⟨[]⟩
  options := ⟨false, none⟩
  prompter := .script []
  source := "mark.json"
  files := ⟨⟨deskDisk text, ⟨"/home"⟩⟩, ⟨⟨"/home/store.json"⟩⟩⟩

variable {text id : String}

theorem load_desk (text : String) : Repository.loadStore (desk text).files = .ok .empty := by
  have hload : StoreFile.load ⟨⟨"/home/store.json"⟩⟩ (deskDisk text) = .ok .empty := by rfl
  exact hload

/-- Where the document has been read. -/
def deskRead (text : String) : RunState Project :=
  (((desk text).opening .empty).visit "mark.json").noted (.read ⟨"mark.json"⟩) (.ok (.text text))

theorem read_desk (text : String) :
    outcome (Service.read ⟨"mark.json"⟩) (((desk text).opening .empty).visit "mark.json") =
      (.ok text, deskRead text) := by
  have hfull : DiskFiles.full ⟨deskDisk text, ⟨"/home"⟩⟩ ⟨"mark.json"⟩ = ⟨"/home/mark.json"⟩ := by
    dsimp only [DiskFiles.full]
    rfl
  have hdisk : (deskDisk text).read ⟨"/home/mark.json"⟩ = .ok text := by rfl
  have hread : FileTree.read (desk text).files ⟨"mark.json"⟩ = .ok text := by
    change DiskFiles.read ⟨deskDisk text, ⟨"/home"⟩⟩ ⟨"mark.json"⟩ = .ok text
    rw [DiskFiles.read, hfull, hdisk]
    rfl
  have hfiles : (((desk text).opening .empty).visit "mark.json").files = (desk text).files := rfl
  rw [Service.outcome_read, hfiles, hread]
  rfl

theorem documents_desk (text : String) :
    outcome (desk text).documents ((desk text).opening .empty) =
      outcome (Document.load (desk text).around none (9999 + 1) (.local ⟨"mark.json"⟩))
        (((desk text).opening .empty).visit "mark.json") := by
  have hparse : DocumentSource.parse "mark.json" = .local ⟨"mark.json"⟩ := by rfl
  have hkey : DocumentSource.key (.local ⟨"mark.json"⟩) = "mark.json" := by rfl
  change outcome (Document.loadRoot (desk text).around none "mark.json") _ = _
  rw [Document.loadRoot, hparse, hkey]
  rfl

theorem runAll_markJob (around : Surroundings) {s : RunState Project}
    (hnew : s.isCompleted id = false) :
    outcome (Job.runAll around (Frame.root none []) [markJob id]) s =
      (.ok (), Job.finish id (s.noted (.report .log "hi") (.ok .done))) := by
  have hruns : outcome (Job.shouldRun ⟨some id, none, none⟩) s = (.ok true, s) := by
    simp [Job.shouldRun, hnew]
    rfl
  have hexec (enter : Frame → String → Run Project Unit) :
      outcome (Job.exec around enter (Frame.root none []) (markJob id)) s =
        (.ok (), Job.finish id (s.noted (.report .log "hi") (.ok .done))) := by
    rw [markJob, Job.exec, Job.gated, outcome_bind_ok hruns]
    rfl
  rw [Job.runAll, Job.execAll, outcome_bind_ok (hexec _)]
  rfl

/-- Where the only job has been done. -/
def deskMarked (text id : String) : RunState Project :=
  Job.finish id ((deskRead text).noted (.report .log "hi") (.ok .done))

theorem documents_desk_of_mark (hparse : Document.parse text = .ok (mark id)) :
    outcome (desk text).documents ((desk text).opening .empty) = (.ok (), deskMarked text id) := by
  have hobtain : outcome (Document.obtain (desk text).around.web (.local ⟨"mark.json"⟩))
      (((desk text).opening .empty).visit "mark.json") = (.ok (mark id), deskRead text) := by
    rw [Document.obtain, outcome_bind_ok (read_desk text), hparse]
    rfl
  have hjobs : outcome (Job.runAll (desk text).around (Frame.root none (mark id).definitions)
      (mark id).jobs) (deskRead text) = (.ok (), deskMarked text id) :=
    runAll_markJob (desk text).around rfl
  have hpending : (deskMarked text id).pending.addRegistry [] = (deskMarked text id).pending := by
    simp [Pending.addRegistry]
  rw [documents_desk, Document.load, outcome_bind_ok hobtain, outcome_bind_ok hjobs]
  change (Except.ok (), { deskMarked text id with
    pending := (deskMarked text id).pending.addRegistry [] }) = _
  rw [hpending]

theorem saveStore_desk (text : String) (table : VariableTable) :
    (Repository.saveStore table (desk text).files).1 = .ok () := by
  have hparent : (Path.mk "/home/store.json").parent = some ⟨"/home"⟩ := by cbv
  have hmake : Disk.makeParents ⟨"/home/store.json"⟩ (deskDisk text) =
      (.ok (), deskDisk text) := by
    rw [Disk.makeParents, hparent]
    rfl
  have hwrite (content : String) : Disk.write ⟨"/home/store.json"⟩ content (deskDisk text) =
      .ok ((deskDisk text).put ["home", "store.json"] (.file content)) := by
    rfl
  change (StoreFile.save ⟨⟨"/home/store.json"⟩⟩ table (deskDisk text)).1 = .ok ()
  simp only [StoreFile.save, hmake, hwrite]

theorem VariableRef.ofJobId_store (key : List Char) :
    VariableRef.ofJobId (String.ofList ('@' :: key)) = ⟨.store, String.ofList key⟩ := by
  simp [VariableRef.ofJobId, Scope.ofSigil?]

/-- The session marks the id in the store and saves it. -/
theorem run_desk_of_mark {key : List Char}
    (hparse : Document.parse text = .ok (mark (String.ofList ('@' :: key)))) :
    (desk text).run.1 = .ok ⟨.empty, true⟩ ∧
      (desk text).run.2.vars.store = VariableTable.empty.set (String.ofList key) "" := by
  let last := deskMarked text (String.ofList ('@' :: key))
  have hstore : last.vars.store = VariableTable.empty.set (String.ofList key) "" := by
    have hundefined : VariableTable.empty.contains (String.ofList key) = false := by
      simp [VariableTable.contains, VariableTable.get, VariableTable.empty]
    simp only [last, deskMarked, Job.finish, VariableRef.ofJobId_store]
    exact congrArg (fun s : RunState Project => s.vars.store)
      (if_neg ((Bool.not_eq_true _).mpr hundefined))
  have hfull : last.vars.store.isEmpty = false := by
    rw [hstore]
    exact VariableTable.isEmpty_set _ _ _
  have hfiles : last.files = (desk text).files := Job.files_finish _ _
  have hpending : last.pending = .empty := Job.pending_finish _ _
  have hsaved := outcome_saveStore last.vars.store last
  rw [hfiles, saveStore_desk] at hsaved
  have hreturn (s : RunState Project) :
      outcome (do return (⟨(← get).pending, true⟩ : RunSummary)) s =
        (.ok ⟨s.pending, true⟩, s) := rfl
  rw [SessionInput.run_of_loaded (load_desk text),
    outcome_bind_ok (documents_desk_of_mark hparse), outcome_close_of_not_isEmpty hfull,
    outcome_bind_ok hsaved, hreturn]
  simp only [RunState.noted]
  exact ⟨by rw [hpending], hstore⟩

def marking (key : List Char) : SessionInput Project :=
  desk (markJson (String.ofList ('@' :: key))).pretty

theorem run_marking (key : List Char) :
    (marking key).run.1 = .ok ⟨.empty, true⟩ ∧
      (marking key).run.2.vars.store = VariableTable.empty.set (String.ofList key) "" :=
  run_desk_of_mark (parse_markJson (String.ofList ('@' :: key)))

/-- A name of one segment more than the reader has levels. -/
def deepKey : List Char := 'a' :: (List.replicate nestingLimit ['.', 'a']).flatten

theorem length_segments_deepKey :
    (VariableTable.segments (String.ofList deepKey)).length = nestingLimit + 1 := by
  rw [VariableTable.segments, String.toList_ofList, List.length_map]
  rfl

/-- The session goes well, but the store that it has saved is refused. -/
theorem saved_store_refused :
    Repository.loadStore (marking deepKey).files = .ok .empty ∧
      (marking deepKey).run.1 = .ok ⟨.empty, true⟩ ∧
      ∃ reason, Repository.loadStore (marking deepKey).run.2.files =
        .error (.service (.store ⟨"/home/store.json"⟩ reason)) := by
  obtain ⟨hrun, hfinal⟩ := run_marking deepKey
  have hcontains : (marking deepKey).run.2.vars.store.contains (String.ofList deepKey) = true := by
    rw [hfinal]
    simp [VariableTable.contains]
  have hlong : nestingLimit < (VariableTable.segments (String.ofList deepKey)).length := by
    rw [length_segments_deepKey]
    exact Nat.lt_succ_self nestingLimit
  obtain ⟨reason, hload⟩ := SessionInput.exists_failure_of_contains hrun rfl hcontains hlong
  exact ⟨load_desk _, hrun, reason, hload⟩

def seenKey : List Char := ['s', 'e', 'e', 'n']

theorem saved_store_reloads_seen :
    (marking seenKey).run.1 = .ok ⟨.empty, true⟩ ∧
      Repository.loadStore (marking seenKey).run.2.files =
        .ok (marking seenKey).run.2.vars.store := by
  obtain ⟨hrun, hfinal⟩ := run_marking seenKey
  have htable : (marking seenKey).run.2.vars.store = ⟨[("seen", .string "")]⟩ := hfinal
  have hshallow : (marking seenKey).run.2.vars.store.Shallow := by
    refine VariableTable.shallow_of_nests ?_
    rw [htable]
    simp [VariableTable.toJson, Nests, nestingLimit]
  have hback : (marking seenKey).run.2.vars.store.toJson.Everywhere ReadsBack := by
    rw [htable]
    exact .object trivial (by simpa using Everywhere.string trivial)
  exact ⟨hrun, ((saved_store_reloads hrun).1 rfl).2.1.mpr ⟨hshallow, hback⟩⟩

end Session
end Scaffold
