import Scaffold.Proofs.DocumentSchema

/-!
# Spellings of documents

The JSON objects that say what a document is: their fields may come in any order and among others,
what has a default may be left out, and some fields have a shorter form.  Every spelling of a
well-formed document reads as that document.
-/

namespace Scaffold

open Json

namespace Fields

variable {name : String} {keys : List String} {value : Option Json} {fields : Fields}

/-- The only value of that name, or none. -/
def Says (name : String) (value : Option Json) (fields : Fields) : Prop :=
  ∀ v, (name, v) ∈ fields ↔ some v = value

theorem Says.get?_eq (hsaid : fields.Says name value) : get? name fields = value := by
  cases hget : get? name fields with
  | none =>
      cases value with
      | none => rfl
      | some v => exact absurd ((hsaid v).mpr rfl) (get?_eq_none_iff.mp hget v)
  | some v => exact (hsaid v).mp (mem_of_get? hget)

theorem says_of_get? (hdistinct : (fields.map Prod.fst).Nodup) (hget : get? name fields = value) :
    fields.Says name value := by
  intro v
  rw [mem_iff_get?_eq hdistinct, hget, eq_comm]

theorem says_without (hname : name ∉ keys) :
    (without keys fields).Says name value ↔ fields.Says name value := by
  refine forall_congr' fun v => ?_
  rw [mem_without, and_iff_left hname]

theorem Says.each {ok : Json → Prop} (hsaid : fields.Says name value)
    (hok : ∀ v, value = some v → ok v) : fields.Each name ok :=
  fun v hv => hok v ((hsaid v).mp hv).symm

theorem Says.required {v : Json} {ok : Json → Prop} (hsaid : fields.Says name (some v))
    (hok : ok v) : fields.Required name ok :=
  ⟨⟨v, (hsaid v).mpr rfl⟩, hsaid.each fun _ hw => Option.some.inj hw ▸ hok⟩

theorem Says.text?_eq {text : Option String} (hsaid : fields.Says name (text.map .string)) :
    text? name fields = text := by
  rw [text?, hsaid.get?_eq]
  cases text <;> rfl

theorem Says.textD_eq {s : String} (hsaid : fields.Says name (some (.string s))) :
    textD name fields = s := by
  have htext : text? name fields = some s := Says.text?_eq hsaid
  rw [textD, htext]
  rfl

theorem Says.required_text {s : String} (hsaid : fields.Says name (some (.string s))) :
    fields.Required name IsText :=
  hsaid.required ⟨s, rfl⟩

theorem Says.each_orNull {text : Option String} (hsaid : fields.Says name (text.map .string)) :
    fields.Each name (OrNull IsText) := by
  refine hsaid.each fun v hv => ?_
  obtain ⟨s, -, rfl⟩ := Option.map_eq_some_iff.mp hv
  exact .inr ⟨s, rfl⟩

/-- A list of that name; an empty one may be left out. -/
def Lists (name : String) (values : List Json) (fields : Fields) : Prop :=
  fields.Says name (some (.array values)) ∨ values = [] ∧ fields.Says name none

theorem Lists.items_eq {values : List Json} (hlists : fields.Lists name values) :
    items name fields = values := by
  rcases hlists with hsaid | ⟨rfl, hsaid⟩
  · simp [items, hsaid.get?_eq]
  · simp [items, hsaid.get?_eq]

theorem Lists.each {values : List Json} {ok : Json → Prop} (hlists : fields.Lists name values)
    (hok : ∀ v ∈ values, ok v) : fields.Each name (ListOf ok) := by
  rcases hlists with hsaid | ⟨rfl, hsaid⟩
  · exact hsaid.each fun v hv => ⟨values, (Option.some.inj hv).symm, hok⟩
  · exact hsaid.each fun v hv => nomatch hv

/-- An object of that name; an empty one may be left out. -/
def Maps (name : String) (fields content : Fields) : Prop :=
  fields.Says name (some (.object content)) ∨ content = [] ∧ fields.Says name none

theorem Maps.entries_eq {content : Fields} (hmaps : fields.Maps name content) :
    entries name fields = content := by
  rcases hmaps with hsaid | ⟨rfl, hsaid⟩
  · simp [entries, hsaid.get?_eq]
  · simp [entries, hsaid.get?_eq]

theorem Maps.each {content : Fields} {ok : Json → Prop} (hmaps : fields.Maps name content)
    (hok : ∀ entry ∈ content, ok entry.2) : fields.Each name (MapOf ok) := by
  rcases hmaps with hsaid | ⟨rfl, hsaid⟩
  · exact hsaid.each fun v hv => ⟨content, (Option.some.inj hv).symm, hok⟩
  · exact hsaid.each fun v hv => nomatch hv

def ofTexts (pairs : List (String × String)) : Fields :=
  pairs.map fun pair => (pair.1, .string pair.2)

@[simp] theorem textEntries_ofTexts {pairs : List (String × String)} :
    textEntries (ofTexts pairs) = pairs := by
  induction pairs with
  | nil => rfl
  | cons pair rest ih =>
      show (pair.1, pair.2) :: textEntries (ofTexts rest) = pair :: rest
      rw [ih]

theorem isText_of_mem_ofTexts {pairs : List (String × String)} :
    ∀ entry ∈ ofTexts pairs, IsText entry.2 := by
  intro entry hentry
  obtain ⟨pair, -, rfl⟩ := List.mem_map.mp hentry
  exact ⟨pair.2, rfl⟩

end Fields

/-! ## Spellings -/

structure Gate.Spelled (gate : Gate) (fields : Fields) : Prop where
  id : fields.Says "id" (gate.id.map .string)
  when : fields.Says "when" (gate.when.map .string)
  confirm : fields.Says "confirm" (gate.confirm.map .string)

/-- Overwriting needs no method, and replacements may stand in the place of the method. -/
def FileWrite.Spelled (fields : Fields) : FileWrite → Prop
  | .overwrite content =>
      (fields.Says "method" (some (.string "w")) ∨ fields.Says "method" none) ∧
        fields.Says "content" (some (.string content))
  | .append content =>
      fields.Says "method" (some (.string "a")) ∧ fields.Says "content" (some (.string content))
  | .replace pairs =>
      fields.Says "method" (some (.string "replace")) ∧
          fields.Says "content" (some (.object (Fields.ofTexts pairs))) ∨
        fields.Says "method" (some (.object (Fields.ofTexts pairs)))

def QuestionKind.Spelled (fields : Fields) : QuestionKind → Prop
  | .ask => fields.Says "questionType" (some (.string "ask")) ∧ fields.Says "options" none
  | .confirm => fields.Says "questionType" (some (.string "confirm")) ∧ fields.Says "options" none
  | .options choices =>
      fields.Says "questionType" (some (.string "options")) ∧
        fields.Says "options" (some (.object (Fields.ofTexts choices)))

/-- A list of one name may be that name alone. -/
def Fields.Names (field : String) (names : List String) (fields : Fields) : Prop :=
  fields.Says field (some (.array (names.map .string))) ∨
    ∃ name, names = [name] ∧ fields.Says field (some (.string name))

def LogLevel.Spelled (fields : Fields) (level : LogLevel) : Prop :=
  fields.Says "logLevel" (some (.string level.name)) ∨
    level = .log ∧ fields.Says "logLevel" none

def Task.Spelled (fields : Fields) : Task → Prop
  | .file job => fields.Says "name" (some (.string job.name)) ∧ job.write.Spelled fields
  | .question q =>
      fields.Says "question" (some (.string q.question)) ∧
        fields.Says "defaultValue" (q.default.map .string) ∧ q.kind.Spelled fields
  | .registryDependencies names => fields.Names "registryDependencies" names
  | .dependencies names => fields.Names "dependencies" names
  | .run target => fields.Says "target" (some (.string target))
  | .log level message =>
      level.Spelled fields ∧ fields.Says "message" (some (.string message))

namespace Job

def TypeSpelled (type : String) (fields : Fields) : Prop :=
  fields.Says "type" (some (.string type)) ∨ type = "file" ∧ fields.Says "type" none

mutual
/-- The value says what the job is. -/
def Spelled : Job → Json → Prop
  | .task gate action, v =>
      ∃ fields, v = .object fields ∧ gate.Spelled fields ∧
        TypeSpelled (Job.task gate action).typeName fields ∧ action.Spelled fields
  | .group gate base jobs, v =>
      ∃ (fields : Fields) (values : List Json), v = .object fields ∧ gate.Spelled fields ∧
        TypeSpelled "group" fields ∧ fields.Says "base" (base.map .string) ∧
        fields.Lists "jobs" values ∧ AllSpelled jobs values

def AllSpelled : List Job → List Json → Prop
  | [], [] => True
  | job :: jobs, v :: values => job.Spelled v ∧ AllSpelled jobs values
  | _, _ => False
end

end Job

def Dependency.toJson : Dependency → Json
  | .package name => .string name
  | .versioned pins => .object (Fields.ofTexts pins)

def Definitions.Spelled (definitions : Definitions) (entries : Fields) : Prop :=
  List.Forall₂ (fun definition entry => definition.1 = entry.1 ∧ definition.2.Spelled entry.2)
    definitions entries

structure Document.SpelledBy (d : Document) (fields : Fields) : Prop where
  name : fields.Says "name" (d.name.map .string)
  title : fields.Says "title" (d.title.map .string)
  version : fields.Says "version" (d.version.map .string)
  description : fields.Says "description" (d.description.map .string)
  jobs : ∃ values, fields.Lists "jobs" values ∧ Job.AllSpelled d.jobs values
  dependencies : fields.Lists "dependencies" (d.dependencies.map Dependency.toJson)
  registryDependencies : fields.Lists "registryDependencies" (d.registryDependencies.map .string)
  definitions : ∃ entries, fields.Maps "definitions" entries ∧ d.definitions.Spelled entries

def Document.Spelled (d : Document) (v : Json) : Prop :=
  ∃ fields, v = .object fields ∧ d.SpelledBy fields

/-! ## Well-formed documents -/

def Task.Offers : Task → Prop
  | .question q => q.kind ≠ .options []
  | _ => True

namespace Job

mutual
/-- Questions have ids and offer something, and each job is fit for the place where it stands. -/
def WellFormed (position : Position) : Job → Prop
  | .task gate action =>
      Placed position (Job.task gate action).typeName gate.when ∧ action.Named gate ∧ action.Offers
  | .group gate _ jobs => Placed position "group" gate.when ∧ AllWellFormed jobs

def AllWellFormed : List Job → Prop
  | [] => True
  | job :: rest => job.WellFormed .inList ∧ AllWellFormed rest
end

theorem allWellFormed_iff {jobs : List Job} :
    AllWellFormed jobs ↔ ∀ job ∈ jobs, job.WellFormed .inList := by
  induction jobs with
  | nil => simp [AllWellFormed]
  | cons job rest ih => simp [AllWellFormed, ih]

end Job

structure Document.WellFormed (d : Document) : Prop where
  jobs : Job.AllWellFormed d.jobs
  definitions : ∀ definition ∈ d.definitions, definition.2.WellFormed .definition

/-! ## Reading a spelling -/

namespace Job

variable {fields : Fields}

theorem readWrite_of_spelled {write : FileWrite} (hspelled : write.Spelled fields) :
    readWrite ((Fields.get? "method" fields).getD .null)
      ((Fields.get? "content" fields).getD .null) = .ok write := by
  have hreplacements : ∀ pairs, readReplacements (.object (Fields.ofTexts pairs)) = .ok pairs := by
    intro pairs
    have hall : (Fields.ofTexts pairs).all (fun field => Shape.isText field.2) = true :=
      List.all_eq_true.mpr fun entry hentry =>
        Shape.isText_eq_true_iff.mpr (Fields.isText_of_mem_ofTexts entry hentry)
    simp [readReplacements, hall]
  cases write with
  | overwrite content =>
      obtain ⟨hmethod | hmethod, hcontent⟩ := hspelled
      · simp [hmethod.get?_eq, hcontent.get?_eq, readWrite, readContent, Except.map]
      · simp [hmethod.get?_eq, hcontent.get?_eq, readWrite, readContent, Except.map]
  | append content =>
      obtain ⟨hmethod, hcontent⟩ := hspelled
      simp [hmethod.get?_eq, hcontent.get?_eq, readWrite, readContent, Except.map]
  | replace pairs =>
      rcases hspelled with ⟨hmethod, hcontent⟩ | hmethod
      · simp [hmethod.get?_eq, hcontent.get?_eq, readWrite, hreplacements, Except.map]
      · simp [hmethod.get?_eq, readWrite, hreplacements, Except.map]

theorem readQuestionKind_of_spelled {id : String} {kind : QuestionKind}
    (hspelled : kind.Spelled fields) (hoffers : kind ≠ .options []) :
    readQuestionKind id fields = .ok kind := by
  cases kind with
  | ask =>
      obtain ⟨htype, hoptions⟩ := hspelled
      simp [readQuestionKind, htype.textD_eq]
  | confirm =>
      obtain ⟨htype, hoptions⟩ := hspelled
      simp [readQuestionKind, htype.textD_eq]
  | options choices =>
      obtain ⟨htype, hoptions⟩ := hspelled
      cases choices with
      | nil => exact absurd rfl hoffers
      | cons choice rest =>
          simp [readQuestionKind, htype.textD_eq, Fields.entries, hoptions.get?_eq]

theorem conforms_of_spelled {kind : QuestionKind} (hspelled : kind.Spelled fields) :
    fields.Required "questionType" IsText ∧ fields.Each "options" (OrNull (MapOf IsText)) := by
  cases kind with
  | ask =>
      obtain ⟨htype, hoptions⟩ := hspelled
      exact ⟨htype.required_text, hoptions.each fun v hv => nomatch hv⟩
  | confirm =>
      obtain ⟨htype, hoptions⟩ := hspelled
      exact ⟨htype.required_text, hoptions.each fun v hv => nomatch hv⟩
  | options choices =>
      obtain ⟨htype, hoptions⟩ := hspelled
      refine ⟨htype.required_text, hoptions.each fun v hv => .inr ?_⟩
      obtain rfl := Option.some.inj hv
      exact ⟨Fields.ofTexts choices, rfl, Fields.isText_of_mem_ofTexts⟩

theorem readDefault_of_text {default : Option String}
    (hsaid : fields.Says "defaultValue" (default.map .string)) :
    readDefault fields = default := by
  cases default <;> simp [readDefault, hsaid.get?_eq]

theorem readNames_of_names {field : String} {names : List String}
    (hnames : fields.Names field names) : readNames field fields = .ok names := by
  rcases hnames with hsaid | ⟨name, rfl, hsaid⟩
  · simp only [readNames, hsaid.get?_eq]
    clear hsaid
    induction names with
    | nil => rfl
    | cons name rest ih => simp [ih, bind, Except.bind, pure, Except.pure]
  · simp [readNames, hsaid.get?_eq]

theorem LogLevel.ofName?_name (level : LogLevel) : LogLevel.ofName? level.name = some level := by
  cases level <;> decide

theorem readLevel_of_spelled {level : LogLevel} (hspelled : level.Spelled fields) :
    readLevel fields = level := by
  rcases hspelled with hsaid | ⟨rfl, hsaid⟩
  · simp [readLevel, hsaid.get?_eq, LogLevel.ofName?_name]
  · simp [readLevel, hsaid.get?_eq]

theorem choice_of_spelled {level : LogLevel} (hspelled : level.Spelled fields) :
    fields.Each "logLevel" (ChoiceOf (LogLevel.all.map LogLevel.name)) := by
  rcases hspelled with hsaid | ⟨rfl, hsaid⟩
  · have hmem : level.name ∈ LogLevel.all.map LogLevel.name := by
      cases level <;> decide
    refine hsaid.each fun v hv => ⟨level.name, hmem, .inl ?_⟩
    exact (Option.some.inj hv).symm
  · exact hsaid.each fun v hv => nomatch hv

theorem readTask_of_spelled {gate : Gate} {task : Task} (hspelled : task.Spelled fields)
    (hnamed : task.Named gate) (hoffers : task.Offers) :
    readTask (Job.task gate task).typeName gate.id fields = .ok task := by
  cases task with
  | file job =>
      obtain ⟨hname, hwrite⟩ := hspelled
      have hrules : conform gate.id fileRules fields = .ok () :=
        conform_fileRules_iff.mpr hname.required_text
      simp [readTask, typeName, readFile, hrules, readWrite_of_spelled hwrite, hname.textD_eq,
        Except.mapError, bind, Except.bind, pure, Except.pure]
  | question q =>
      obtain ⟨hquestion, hdefault, hkind⟩ := hspelled
      obtain ⟨id, hid⟩ := hnamed
      obtain ⟨htype, hoptions⟩ := conforms_of_spelled hkind
      have hrules : conform (some id) questionRules fields = .ok () :=
        conform_questionRules_iff.mpr ⟨hquestion.required_text, htype, hoptions⟩
      simp only [readTask, typeName, readQuestion, hid, hrules,
        readQuestionKind_of_spelled hkind hoffers, hquestion.textD_eq, readDefault_of_text hdefault,
        bind, Except.bind, pure, Except.pure]
  | registryDependencies names =>
      simp [readTask, typeName, readNames_of_names hspelled, Except.map]
  | dependencies names =>
      simp [readTask, typeName, readNames_of_names hspelled, Except.map]
  | run target =>
      have htarget : fields.Says "target" (some (.string target)) := hspelled
      have hrules : conform gate.id runRules fields = .ok () :=
        conform_runRules_iff.mpr htarget.required_text
      simp [readTask, typeName, hrules, htarget.textD_eq, bind, Except.bind, pure, Except.pure]
  | log level message =>
      obtain ⟨hlevel, hmessage⟩ := hspelled
      have hrules : conform gate.id logRules fields = .ok () :=
        conform_logRules_iff.mpr ⟨hmessage.required_text, choice_of_spelled hlevel⟩
      simp [readTask, typeName, hrules, hmessage.textD_eq, readLevel_of_spelled hlevel, bind,
        Except.bind, pure, Except.pure]

/-- The fields apart from the gate spell the body just as all fields do. -/
theorem spelled_without {task : Task} :
    task.Spelled (Fields.without gateNames fields) ↔ task.Spelled fields := by
  cases task with
  | file job =>
      cases hwrite : job.write <;>
        simp (disch := decide) only [Task.Spelled, FileWrite.Spelled, hwrite, Fields.says_without]
  | question q =>
      cases hkind : q.kind <;>
        simp (disch := decide) only [Task.Spelled, QuestionKind.Spelled, hkind,
          Fields.says_without]
  | registryDependencies names | dependencies names =>
      simp (disch := decide) only [Task.Spelled, Fields.Names, Fields.says_without]
  | run target => simp (disch := decide) only [Task.Spelled, Fields.says_without]
  | log level message =>
      simp (disch := decide) only [Task.Spelled, LogLevel.Spelled, Fields.says_without]

theorem TypeSpelled.exists_text {type : String} (hspelled : TypeSpelled type fields) :
    ∃ text : Option String, fields.Says "type" (text.map .string) ∧ text.getD "file" = type := by
  rcases hspelled with hsaid | ⟨rfl, hsaid⟩
  · exact ⟨some type, hsaid, rfl⟩
  · exact ⟨none, hsaid, rfl⟩

theorem typeOf_of_spelled {type : String} (hspelled : TypeSpelled type fields) :
    (Fields.text? "type" fields).getD "file" = type := by
  obtain ⟨text, hsaid, htype⟩ := hspelled.exists_text
  rw [hsaid.text?_eq, htype]

theorem gateConforms_of_spelled {gate : Gate} {type : String} (hgate : gate.Spelled fields)
    (htype : TypeSpelled type fields) : GateConforms fields := by
  obtain ⟨text, hsaid, -⟩ := htype.exists_text
  exact ⟨hgate.id.each_orNull, hgate.when.each_orNull, hgate.confirm.each_orNull,
    hsaid.each_orNull⟩

theorem checkPosition_of_placed {position : Position} {job : Job}
    (hplaced : Placed position job.typeName job.gate.when) :
    checkPosition position job = .ok job := by
  obtain ⟨checked, hchecked⟩ := exists_checkPosition_iff.mpr hplaced
  rwa [eq_of_checkPosition hchecked] at hchecked

theorem typeName_ne_group {gate : Gate} {task : Task} :
    (Job.task gate task).typeName ≠ "group" := by
  cases task <;> simp [typeName]

mutual
theorem ofJson_of_spelled {position : Position} {job : Job} {v : Json}
    (hwell : job.WellFormed position) (hspelled : job.Spelled v) :
    ofJson position v = .ok job := by
  match job with
  | .task gate action =>
      obtain ⟨hplaced, hnamed, hoffers⟩ := hwell
      obtain ⟨fields, rfl, hgate, htype, haction⟩ := hspelled
      have hrules : conform none gateRules fields = .ok () :=
        conform_gateRules_iff.mpr (gateConforms_of_spelled hgate htype)
      have hread := readTask_of_spelled (spelled_without.mpr haction) hnamed hoffers
      rw [ofJson, hrules]
      simp only [bind, Except.bind, typeOf_of_spelled htype, hgate.id.text?_eq,
        hgate.when.text?_eq, hgate.confirm.text?_eq]
      rw [if_neg typeName_ne_group, hread]
      exact checkPosition_of_placed hplaced
  | .group gate base jobs =>
      obtain ⟨hplaced, hjobs⟩ := hwell
      obtain ⟨fields, values, rfl, hgate, htype, hbase, hlists, hvalues⟩ := hspelled
      have hrules : conform none gateRules fields = .ok () :=
        conform_gateRules_iff.mpr (gateConforms_of_spelled hgate htype)
      have hgroup : conform gate.id groupRules (Fields.without gateNames fields) = .ok () :=
        conform_groupRules_iff.mpr ⟨hbase.each_orNull, hlists.each fun _ _ => trivial⟩
      have hbody : Fields.text? "base" (Fields.without gateNames fields) = base :=
        ((Fields.says_without (by decide)).mpr hbase).text?_eq
      have hread := listOfJson_of_spelled hjobs hvalues
      rw [ofJson, hrules]
      simp only [bind, Except.bind, typeOf_of_spelled htype, hgate.id.text?_eq,
        hgate.when.text?_eq, hgate.confirm.text?_eq, hlists.items_eq]
      rw [if_pos trivial, hgroup, hread, hbody]
      exact checkPosition_of_placed hplaced

theorem listOfJson_of_spelled {jobs : List Job} {values : List Json}
    (hwell : AllWellFormed jobs) (hspelled : AllSpelled jobs values) :
    listOfJson values = .ok jobs := by
  match jobs, values with
  | [], [] => simp [listOfJson]
  | job :: rest, v :: others =>
      rw [listOfJson, ofJson_of_spelled hwell.1 hspelled.1,
        listOfJson_of_spelled hwell.2 hspelled.2]
      rfl
end

theorem definitionsOfJson_of_spelled {definitions : Definitions} {entries : Fields}
    (hwell : ∀ definition ∈ definitions, definition.2.WellFormed .definition)
    (hspelled : definitions.Spelled entries) :
    definitionsOfJson entries = .ok definitions := by
  induction hspelled with
  | nil => rfl
  | @cons definition entry others rest hdefinition hrest ih =>
      obtain ⟨hname, hjob⟩ := hdefinition
      rw [List.forall_mem_cons] at hwell
      rw [definitionsOfJson, ofJson_of_spelled hwell.1 hjob, ih hwell.2, ← hname]
      rfl

end Job

theorem Dependency.ofJson_toJson (dependency : Dependency) :
    Dependency.ofJson dependency.toJson = dependency := by
  cases dependency with
  | package name => rfl
  | versioned pins => simp [Dependency.toJson, Dependency.ofJson]

theorem Dependency.isDependency_toJson (dependency : Dependency) :
    IsDependency dependency.toJson := by
  cases dependency with
  | package name => exact .inl ⟨name, rfl⟩
  | versioned pins => exact .inr ⟨Fields.ofTexts pins, rfl, Fields.isText_of_mem_ofTexts⟩

namespace Document

theorem recordConforms_of_spelledBy {d : Document} {fields : Fields}
    (hspelled : d.SpelledBy fields) : RecordConforms fields := by
  obtain ⟨values, hvalues, -⟩ := hspelled.jobs
  obtain ⟨entries, hentries, -⟩ := hspelled.definitions
  refine ⟨hspelled.name.each_orNull, hspelled.title.each_orNull, hspelled.version.each_orNull,
    hspelled.description.each_orNull, hvalues.each fun _ _ => trivial,
    hspelled.dependencies.each ?_, hspelled.registryDependencies.each ?_,
    hentries.each fun _ _ => trivial⟩
  · intro v hv
    obtain ⟨dependency, -, rfl⟩ := List.mem_map.mp hv
    exact dependency.isDependency_toJson
  · intro v hv
    obtain ⟨name, -, rfl⟩ := List.mem_map.mp hv
    exact ⟨name, rfl⟩

/-- Every spelling of a well-formed document reads as that document. -/
theorem ofJson_of_spelled {d : Document} {v : Json} (hwell : d.WellFormed)
    (hspelled : d.Spelled v) : ofJson v = .ok d := by
  obtain ⟨fields, rfl, hspelled⟩ := hspelled
  have hrules : rules.check fields = .ok () :=
    check_rules_iff.mpr (recordConforms_of_spelledBy hspelled)
  obtain ⟨values, hvalues, hjobs⟩ := hspelled.jobs
  obtain ⟨entries, hentries, hdefinitions⟩ := hspelled.definitions
  have hreadJobs := Job.listOfJson_of_spelled hwell.jobs hjobs
  have hreadDefinitions := Job.definitionsOfJson_of_spelled hwell.definitions hdefinitions
  have hdependencies : (Fields.items "dependencies" fields).map Dependency.ofJson =
      d.dependencies := by
    rw [hspelled.dependencies.items_eq, List.map_map]
    exact List.map_id'' Dependency.ofJson_toJson d.dependencies
  have hregistry : Fields.texts "registryDependencies" fields = d.registryDependencies := by
    rw [Fields.texts, hspelled.registryDependencies.items_eq, List.filterMap_map]
    exact List.filterMap_some
  rw [ofJson, hrules, hvalues.items_eq, hentries.entries_eq, hreadJobs, hreadDefinitions,
    hdependencies, hregistry]
  simp only [Except.mapError, bind, Except.bind, pure, Except.pure, hspelled.name.text?_eq,
    hspelled.title.text?_eq, hspelled.version.text?_eq, hspelled.description.text?_eq]

end Document

end Scaffold
