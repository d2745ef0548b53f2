import Scaffold.Proofs.RecordShapes

/-!
# The schema of documents

What a JSON value has to be like to be read as a document: the shapes of its fields, and for each
job the shapes of its gate, the body that its type demands, at any depth of groups, and the rule
of the place where it stands.  The reader accepts exactly the values that conform.
-/

namespace Scaffold

open Json

theorem Except.exists_bind_eq_ok_iff {ε α β : Type} {r : Except ε α} {next : α → Except ε β} :
    (∃ b, (r >>= next) = .ok b) ↔ ∃ a, r = .ok a ∧ ∃ b, next a = .ok b := by
  cases r <;> simp [bind, Except.bind]

theorem Except.exists_unit_bind_eq_ok_iff {ε β : Type} {r : Except ε Unit}
    {next : Unit → Except ε β} :
    (∃ b, (r >>= next) = .ok b) ↔ r = .ok () ∧ ∃ b, next () = .ok b := by
  cases r <;> simp [bind, Except.bind]

/-- Two results of which neither depends on the other, put together. -/
theorem Except.exists_both_eq_ok_iff {ε α β γ : Type} {r : Except ε α} {t : Except ε β}
    {f : α → β → γ} :
    (∃ c, (do let a ← r; let b ← t; return f a b) = .ok c) ↔
      (∃ a, r = .ok a) ∧ ∃ b, t = .ok b := by
  cases r <;> cases t <;> simp [bind, Except.bind, pure, Except.pure]

theorem Except.exists_map_eq_ok_iff {ε α β : Type} {r : Except ε α} {f : α → β} :
    (∃ b, r.map f = .ok b) ↔ ∃ a, r = .ok a := by
  cases r <;> simp [Except.map]

theorem Except.exists_mapError_eq_ok_iff {ε δ α : Type} {r : Except ε α} {f : ε → δ} :
    (∃ a, r.mapError f = .ok a) ↔ ∃ a, r = .ok a := by
  cases r <;> simp [Except.mapError]

namespace Job

/-! ## Jobs that conform -/

/-- Without a type, a job is a file. -/
def typeOf (fields : Fields) : String := (Fields.text? "type" fields).getD "file"

@[mk_iff]
structure GateConforms (fields : Fields) : Prop where
  id : fields.Each "id" (OrNull IsText)
  when : fields.Each "when" (OrNull IsText)
  confirm : fields.Each "confirm" (OrNull IsText)
  type : fields.Each "type" (OrNull IsText)

/-- What a file job says of its file: `w`, the default, and `a` take a text, `replace` an object of
texts, which may also stand in the place of the method. -/
def WriteConforms (method content : Json) : Prop :=
  (method = .null ∨ method = .string "w" ∨ method = .string "a") ∧ IsText content ∨
    method = .string "replace" ∧ MapOf IsText content ∨ MapOf IsText method

@[mk_iff]
structure FileConforms (fields : Fields) : Prop where
  name : fields.Required "name" IsText
  write : WriteConforms ((Fields.get? "method" fields).getD .null)
    ((Fields.get? "content" fields).getD .null)

/-- Options are a non-empty object of texts; a question of another type may leave them out. -/
@[mk_iff]
structure QuestionConforms (fields : Fields) : Prop where
  question : fields.Required "question" IsText
  type : fields.Required "questionType" IsText
  options : fields.Each "options" (OrNull (MapOf IsText))
  known : Fields.textD "questionType" fields ∈ ["ask", "confirm", "options"]
  offered : Fields.textD "questionType" fields = "options" → Fields.entries "options" fields ≠ []

/-- One name or a list of names. -/
def NamesConform (field : String) (fields : Fields) : Prop :=
  ∃ v, Fields.get? field fields = some v ∧ (IsText v ∨ ListOf IsText v)

@[mk_iff]
structure LogConforms (fields : Fields) : Prop where
  message : fields.Required "message" IsText
  level : fields.Each "logLevel" (ChoiceOf (LogLevel.all.map LogLevel.name))

/-- The body that the type demands; only a question needs an id. -/
def BodyConforms (id : Option String) (fields : Fields) : String → Prop
  | "file" => FileConforms fields
  | "question" => id ≠ none ∧ QuestionConforms fields
  | "registryDependencies" => NamesConform "registryDependencies" fields
  | "dependencies" => NamesConform "dependencies" fields
  | "run" => fields.Required "target" IsText
  | "log" => LogConforms fields
  | _ => False

/-- In a list, a dependency job has a guard; a definition has none, whatever its type. -/
def Placed (position : Position) (type : String) (when : Option String) : Prop :=
  match position with
  | .inList => type = "dependencies" ∨ type = "registryDependencies" → when ≠ none
  | .definition => when = none

/-- The value is a job for that place. -/
inductive Conforms : Position → Json → Prop where
  | task {position : Position} {fields : Fields} (hgate : GateConforms fields)
      (hbody : BodyConforms (Fields.text? "id" fields) fields (typeOf fields))
      (hplaced : Placed position (typeOf fields) (Fields.text? "when" fields)) :
      Conforms position (.object fields)
  | group {position : Position} {fields : Fields} (hgate : GateConforms fields)
      (htype : typeOf fields = "group") (hbase : fields.Each "base" (OrNull IsText))
      (hlist : fields.Each "jobs" (ListOf fun _ => True))
      (hjobs : ∀ v ∈ Fields.items "jobs" fields, Conforms .inList v)
      (hplaced : Placed position "group" (Fields.text? "when" fields)) :
      Conforms position (.object fields)

/-! ## What each part of the reader accepts -/

theorem conform_eq_ok_iff {id : Option String} {rules : RecordRules} {body : Fields}
    (hdistinct : (rules.map FieldRule.name).Nodup) :
    conform id rules body = .ok () ↔ ∀ rule ∈ rules, rule.Admits body := by
  rw [← RecordRules.check_eq_ok_iff hdistinct, conform]
  cases rules.check body <;> simp [Except.mapError]

theorem conform_gateRules_iff {fields : Fields} :
    conform none gateRules fields = .ok () ↔ GateConforms fields := by
  rw [conform_eq_ok_iff (by decide), gateConforms_iff]
  simp [gateRules, gateNames, optionalText, FieldRule.Admits, Shape.Fits]

theorem conform_groupRules_iff {id : Option String} {fields : Fields} :
    conform id groupRules (Fields.without gateNames fields) = .ok () ↔
      fields.Each "base" (OrNull IsText) ∧ fields.Each "jobs" (ListOf fun _ => True) := by
  rw [conform_eq_ok_iff (by decide)]
  have hbase : "base" ∉ gateNames := by decide
  have hjobs : "jobs" ∉ gateNames := by decide
  simp [groupRules, optionalText, FieldRule.Admits, Shape.Fits, Fields.each_without hbase,
    Fields.each_without hjobs, and_comm]

theorem conform_fileRules_iff {id : Option String} {fields : Fields} :
    conform id fileRules fields = .ok () ↔ fields.Required "name" IsText := by
  rw [conform_eq_ok_iff (by decide)]
  simp [fileRules, requiredText, FieldRule.Admits, Shape.Fits]

theorem conform_questionRules_iff {id : Option String} {fields : Fields} :
    conform id questionRules fields = .ok () ↔
      fields.Required "question" IsText ∧ fields.Required "questionType" IsText ∧
        fields.Each "options" (OrNull (MapOf IsText)) := by
  rw [conform_eq_ok_iff (by decide)]
  simp [questionRules, requiredText, FieldRule.Admits, Shape.Fits]

theorem conform_runRules_iff {id : Option String} {fields : Fields} :
    conform id runRules fields = .ok () ↔ fields.Required "target" IsText := by
  rw [conform_eq_ok_iff (by decide)]
  simp [runRules, requiredText, FieldRule.Admits, Shape.Fits]

theorem conform_logRules_iff {id : Option String} {fields : Fields} :
    conform id logRules fields = .ok () ↔ LogConforms fields := by
  rw [conform_eq_ok_iff (by decide), logConforms_iff]
  simp [logRules, requiredText, FieldRule.Admits, Shape.Fits, and_comm]

theorem exists_readContent_iff {v : Json} : (∃ s, readContent v = .ok s) ↔ IsText v := by
  cases v <;> simp [readContent, IsText]

theorem exists_readReplacements_iff {v : Json} :
    (∃ pairs, readReplacements v = .ok pairs) ↔ MapOf IsText v := by
  cases v with
  | object fields =>
      by_cases hall : fields.all fun field => Shape.isText field.2
      · have htexts : MapOf IsText (.object fields) :=
          ⟨fields, rfl, fun field hfield =>
            Shape.isText_eq_true_iff.mp (List.all_eq_true.mp hall field hfield)⟩
        simp [readReplacements, hall, htexts]
      · have hnot : ¬MapOf IsText (.object fields) := by
          rintro ⟨entries, hentries, htexts⟩
          obtain rfl := Json.object.inj hentries
          exact hall (List.all_eq_true.mpr fun field hfield =>
            Shape.isText_eq_true_iff.mpr (htexts field hfield))
        simp [readReplacements, hall, hnot]
  | null | bool _ | number _ | string _ | array _ => simp [readReplacements, MapOf]

theorem exists_readWrite_iff {method content : Json} :
    (∃ write, readWrite method content = .ok write) ↔ WriteConforms method content := by
  have hmap : ∀ s, ¬MapOf IsText (.string s) := by
    rintro s ⟨entries, hentries, -⟩
    cases hentries
  unfold readWrite
  split
  · rw [Except.exists_map_eq_ok_iff, exists_readContent_iff]
    simp [WriteConforms, MapOf]
  · rw [Except.exists_map_eq_ok_iff, exists_readContent_iff]
    simp [WriteConforms, hmap]
  · rw [Except.exists_map_eq_ok_iff, exists_readContent_iff]
    simp [WriteConforms, hmap]
  · rw [Except.exists_map_eq_ok_iff, exists_readReplacements_iff]
    simp [WriteConforms, hmap]
  · next other hw ha hreplace =>
      simp_all [WriteConforms]
  · rw [Except.exists_map_eq_ok_iff, exists_readReplacements_iff]
    simp [WriteConforms]
  · next v hnull hw ha hreplace hstring hobject =>
      have hnone : ¬MapOf IsText method := by
        rintro ⟨entries, rfl, -⟩
        exact hobject entries rfl
      simp_all [WriteConforms]

/-- An object of texts has as many texts as entries. -/
theorem textEntries_eq_nil_iff {entries : Fields} (htexts : ∀ entry ∈ entries, IsText entry.2) :
    Fields.textEntries entries = [] ↔ entries = [] := by
  cases entries with
  | nil => simp [Fields.textEntries]
  | cons entry rest =>
      obtain ⟨s, hs⟩ := htexts entry List.mem_cons_self
      simp [Fields.textEntries, hs, text?]

theorem texts_of_entries {name : String} {fields : Fields}
    (heach : fields.Each name (OrNull (MapOf IsText))) :
    ∀ entry ∈ Fields.entries name fields, IsText entry.2 := by
  unfold Fields.entries
  split
  · next entries hget =>
      rcases heach _ (Fields.mem_of_get? hget) with hnull | ⟨others, hothers, htexts⟩
      · cases hnull
      · obtain rfl := Json.object.inj hothers
        exact htexts
  · simp

theorem exists_readQuestionKind_iff {id : String} {fields : Fields}
    (hoptions : fields.Each "options" (OrNull (MapOf IsText))) :
    (∃ kind, readQuestionKind id fields = .ok kind) ↔
      Fields.textD "questionType" fields ∈ ["ask", "confirm", "options"] ∧
        (Fields.textD "questionType" fields = "options" →
          Fields.entries "options" fields ≠ []) := by
  have hnil := textEntries_eq_nil_iff (texts_of_entries hoptions)
  unfold readQuestionKind
  split
  · next hkind => simp [hkind]
  · next hkind => simp [hkind]
  · next hkind =>
      split
      · next hempty => simp [hkind, hnil.mp hempty]
      · next hchoices =>
          have hsome : Fields.entries "options" fields ≠ [] := fun h => hchoices (hnil.mpr h)
          simp [hkind, hsome]
  · next hask hconfirm hknown => simp_all

theorem exists_mapM_eq_ok_iff {ε α β : Type} {f : α → Except ε β} {xs : List α} :
    (∃ ys, xs.mapM f = .ok ys) ↔ ∀ x ∈ xs, ∃ y, f x = .ok y := by
  induction xs with
  | nil => simp [pure, Except.pure]
  | cons x rest ih =>
      rw [List.mapM_cons, Except.exists_both_eq_ok_iff, List.forall_mem_cons, ih]

theorem exists_readNames_iff {field : String} {fields : Fields} :
    (∃ names, readNames field fields = .ok names) ↔ NamesConform field fields := by
  unfold readNames NamesConform
  split
  · next s hget => simp [hget, IsText]
  · next items hget =>
      have hitems : (∀ item ∈ items, IsText item) ↔ ListOf IsText (.array items) := by
        simp [ListOf]
      rw [exists_mapM_eq_ok_iff, hget]
      simp only [Option.some.injEq, exists_eq_left', ← hitems]
      have hnot : ¬IsText (.array items) := by simp [IsText]
      rw [or_iff_right hnot]
      refine forall₂_congr fun item _ => ?_
      cases item <;> simp [IsText]
  · next v hstring harray hget =>
      have hnone : ¬(IsText v ∨ ListOf IsText v) := by
        rintro (⟨s, rfl⟩ | ⟨items, rfl, -⟩)
        · exact hstring s rfl
        · exact harray items rfl
      simp [hget, hnone]
  · next hget => simp [hget]

theorem exists_readFile_iff {id : Option String} {fields : Fields} :
    (∃ task, readFile id fields = .ok task) ↔ FileConforms fields := by
  have hwrite : ∀ {method content : Json},
      (∃ write, (readWrite method content).mapError (faultOf id) = .ok write) ↔
        WriteConforms method content := by
    intro method content
    rw [Except.exists_mapError_eq_ok_iff, exists_readWrite_iff]
  unfold readFile
  rw [Except.exists_unit_bind_eq_ok_iff, conform_fileRules_iff, Except.exists_bind_eq_ok_iff,
    fileConforms_iff, ← hwrite]
  simp [pure, Except.pure]

theorem exists_readQuestion_iff {id : Option String} {fields : Fields} :
    (∃ task, readQuestion id fields = .ok task) ↔ id ≠ none ∧ QuestionConforms fields := by
  unfold readQuestion
  rw [Except.exists_unit_bind_eq_ok_iff, conform_questionRules_iff, questionConforms_iff]
  cases id with
  | none => simp [throw, throwThe, MonadExceptOf.throw]
  | some id =>
      rw [Except.exists_bind_eq_ok_iff]
      simp only [pure, Except.pure, Except.ok.injEq, exists_eq', and_true]
      constructor
      · rintro ⟨⟨hquestion, htype, hoptions⟩, hkind⟩
        obtain ⟨hknown, hoffered⟩ := (exists_readQuestionKind_iff hoptions).mp hkind
        exact ⟨Option.some_ne_none id, hquestion, htype, hoptions, hknown, hoffered⟩
      · rintro ⟨-, hquestion, htype, hoptions, hknown, hoffered⟩
        exact ⟨⟨hquestion, htype, hoptions⟩,
          (exists_readQuestionKind_iff hoptions).mpr ⟨hknown, hoffered⟩⟩

theorem exists_readTask_iff {type : String} {id : Option String} {fields : Fields} :
    (∃ task, readTask type id fields = .ok task) ↔ BodyConforms id fields type := by
  unfold readTask BodyConforms
  split
  · exact exists_readFile_iff
  · exact exists_readQuestion_iff
  · exact Except.exists_map_eq_ok_iff.trans exists_readNames_iff
  · exact Except.exists_map_eq_ok_iff.trans exists_readNames_iff
  · rw [Except.exists_unit_bind_eq_ok_iff, conform_runRules_iff]
    simp [pure, Except.pure]
  · rw [Except.exists_unit_bind_eq_ok_iff, conform_logRules_iff]
    simp [pure, Except.pure]
  · next hfile hquestion hregistry hdependencies hrun hlog =>
      simp_all

/-! ## The gate apart from the body -/

/-- A body does not speak of the fields of the gate, so that it is the same without them. -/
theorem bodyConforms_without {type : String} {id : Option String} {fields : Fields} :
    BodyConforms id (Fields.without gateNames fields) type ↔ BodyConforms id fields type := by
  have hget : ∀ name ∉ gateNames,
      Fields.get? name (Fields.without gateNames fields) = Fields.get? name fields :=
    fun name hname => Fields.get?_without hname
  have heach : ∀ name ∉ gateNames, ∀ ok : Json → Prop,
      (Fields.without gateNames fields).Each name ok ↔ fields.Each name ok :=
    fun name hname ok => Fields.each_without hname
  have hrequired : ∀ name ∉ gateNames, ∀ ok : Json → Prop,
      (Fields.without gateNames fields).Required name ok ↔ fields.Required name ok :=
    fun name hname ok => Fields.required_without hname
  unfold BodyConforms
  split
  · rw [fileConforms_iff, fileConforms_iff, hrequired _ (by decide), hget _ (by decide),
      hget _ (by decide)]
  · rw [questionConforms_iff, questionConforms_iff, hrequired _ (by decide),
      hrequired _ (by decide), heach _ (by decide), Fields.textD, Fields.text?,
      Fields.entries, hget _ (by decide), hget _ (by decide)]
    rfl
  · rw [NamesConform, hget _ (by decide)]
    rfl
  · rw [NamesConform, hget _ (by decide)]
    rfl
  · exact hrequired _ (by decide) _
  · rw [logConforms_iff, logConforms_iff, hrequired _ (by decide), heach _ (by decide)]
  · rfl

theorem typeName_of_readTask {type : String} {id : Option String} {gate : Gate} {fields : Fields}
    {task : Task} (hread : readTask type id fields = .ok task) :
    (Job.task gate task).typeName = type := by
  rcases readTask_cases hread with ⟨rfl, _, rfl⟩ | ⟨rfl, _, _, -, -, rfl⟩ | ⟨rfl, _, rfl⟩ |
    ⟨rfl, _, rfl⟩ | ⟨rfl, _, rfl⟩ | ⟨rfl, _, _, rfl⟩
  all_goals rfl

theorem exists_checkPosition_iff {position : Position} {job : Job} :
    (∃ checked, checkPosition position job = .ok checked) ↔
      Placed position job.typeName job.gate.when := by
  cases position with
  | definition =>
      cases hwhen : job.gate.when <;> simp [checkPosition, hwhen, Placed]
  | inList =>
      cases hwhen : job.gate.when with
      | some guard => simp [checkPosition, hwhen, Placed]
      | none =>
          cases job with
          | group gate base jobs => simp_all [checkPosition, Placed, typeName]
          | task gate task => cases task <;> simp_all [checkPosition, Placed, typeName]

/-! ## Jobs and documents -/

theorem conforms_object_iff {position : Position} {fields : Fields} :
    Conforms position (.object fields) ↔ GateConforms fields ∧
      Placed position (typeOf fields) (Fields.text? "when" fields) ∧
      if typeOf fields = "group" then
        (fields.Each "base" (OrNull IsText) ∧ fields.Each "jobs" (ListOf fun _ => True)) ∧
          ∀ v ∈ Fields.items "jobs" fields, Conforms .inList v
      else BodyConforms (Fields.text? "id" fields) fields (typeOf fields) := by
  constructor
  · rintro (⟨hgate, hbody, hplaced⟩ | ⟨hgate, htype, hbase, hlist, hjobs, hplaced⟩)
    · have htype : typeOf fields ≠ "group" := by
        intro htype
        rw [htype] at hbody
        exact hbody
      exact ⟨hgate, hplaced, by rwa [if_neg htype]⟩
    · rw [if_pos htype, htype]
      exact ⟨hgate, hplaced, ⟨hbase, hlist⟩, hjobs⟩
  · rintro ⟨hgate, hplaced, hbody⟩
    split at hbody
    · next htype =>
        obtain ⟨⟨hbase, hlist⟩, hjobs⟩ := hbody
        exact .group hgate htype hbase hlist hjobs (htype ▸ hplaced)
    · exact .task hgate hbody hplaced

mutual
theorem exists_ofJson_iff {position : Position} {v : Json} :
    (∃ job, ofJson position v = .ok job) ↔ Conforms position v := by
  match v with
  | .object fields =>
      rw [ofJson, Except.exists_unit_bind_eq_ok_iff, conform_gateRules_iff, conforms_object_iff]
      refine and_congr_right fun _ => ?_
      dsimp only
      rw [← typeOf]
      split
      · next htype =>
          -- The children are smaller than the object, so that they are dealt with by recursion.
          rw [Except.exists_unit_bind_eq_ok_iff, conform_groupRules_iff,
            Except.exists_bind_eq_ok_iff, ← exists_listOfJson_iff]
          simp only [exists_checkPosition_iff, gate, typeName, htype]
          constructor
          · rintro ⟨hrules, jobs, hjobs, hplaced⟩
            exact ⟨hplaced, hrules, jobs, hjobs⟩
          · rintro ⟨hplaced, hrules, jobs, hjobs⟩
            exact ⟨hrules, jobs, hjobs, hplaced⟩
      · next htype =>
          -- The place asks for the type of the task, which is the type that was read.
          rw [Except.exists_bind_eq_ok_iff, ← bodyConforms_without, ← exists_readTask_iff]
          constructor
          · rintro ⟨task, htask, hplaced⟩
            rw [exists_checkPosition_iff, typeName_of_readTask htask] at hplaced
            exact ⟨hplaced, task, htask⟩
          · rintro ⟨hplaced, task, htask⟩
            refine ⟨task, htask, exists_checkPosition_iff.mpr ?_⟩
            rw [typeName_of_readTask htask]
            exact hplaced
  | .null | .bool _ | .number _ | .string _ | .array _ =>
      simp only [ofJson, reduceCtorEq, exists_false, false_iff]
      rintro ⟨⟩
termination_by sizeOf v
decreasing_by exact sizeOf_items_lt "jobs" fields

theorem exists_listOfJson_iff {values : List Json} :
    (∃ jobs, listOfJson values = .ok jobs) ↔ ∀ v ∈ values, Conforms .inList v := by
  match values with
  | [] => simp [listOfJson]
  | v :: rest =>
      rw [listOfJson, Except.exists_both_eq_ok_iff, List.forall_mem_cons, exists_ofJson_iff,
        exists_listOfJson_iff]
termination_by sizeOf values
end

theorem exists_definitionsOfJson_iff {fields : Fields} :
    (∃ definitions, definitionsOfJson fields = .ok definitions) ↔
      ∀ entry ∈ fields, Conforms .definition entry.2 := by
  induction fields with
  | nil => simp [definitionsOfJson]
  | cons entry rest ih =>
      rw [definitionsOfJson, Except.exists_both_eq_ok_iff, List.forall_mem_cons,
        exists_ofJson_iff, ih]

end Job

namespace Document

/-- The shapes of the fields of a document; any other field is passed over. -/
@[mk_iff]
structure RecordConforms (fields : Fields) : Prop where
  name : fields.Each "name" (OrNull IsText)
  title : fields.Each "title" (OrNull IsText)
  version : fields.Each "version" (OrNull IsText)
  description : fields.Each "description" (OrNull IsText)
  jobs : fields.Each "jobs" (ListOf fun _ => True)
  dependencies : fields.Each "dependencies" (ListOf IsDependency)
  registryDependencies : fields.Each "registryDependencies" (ListOf IsText)
  definitions : fields.Each "definitions" (MapOf fun _ => True)

/-- The value is an object of these shapes, its jobs are jobs of a list and its definitions jobs
that define something. -/
structure Conforms (fields : Fields) : Prop where
  record : RecordConforms fields
  jobs : ∀ v ∈ Fields.items "jobs" fields, Job.Conforms .inList v
  definitions : ∀ entry ∈ Fields.entries "definitions" fields, Job.Conforms .definition entry.2

theorem check_rules_iff {fields : Fields} :
    rules.check fields = .ok () ↔ RecordConforms fields := by
  rw [RecordRules.check_eq_ok_iff (by decide), recordConforms_iff]
  simp [rules, optionalText, FieldRule.Admits, Shape.Fits]

/-- Exactly the objects that conform to the schema are documents. -/
theorem reads_schema {v : Json} :
    (∃ d, ofJson v = .ok d) ↔ ∃ fields, v = .object fields ∧ Conforms fields := by
  cases v with
  | object fields =>
      have hchecked : ((rules.check fields).mapError
          fun m => DocumentError.invalidDocument m.message) = .ok () ↔ RecordConforms fields := by
        rw [← check_rules_iff]
        cases rules.check fields <;> simp [Except.mapError]
      rw [ofJson, Except.exists_unit_bind_eq_ok_iff, hchecked, Except.exists_both_eq_ok_iff,
        Job.exists_listOfJson_iff, Job.exists_definitionsOfJson_iff]
      constructor
      · rintro ⟨hrecord, hjobs, hdefinitions⟩
        exact ⟨fields, rfl, hrecord, hjobs, hdefinitions⟩
      · rintro ⟨others, hothers, hrecord, hjobs, hdefinitions⟩
        obtain rfl := Json.object.inj hothers
        exact ⟨hrecord, hjobs, hdefinitions⟩
  | null | bool _ | number _ | string _ | array _ => simp [ofJson]

end Document
end Scaffold
