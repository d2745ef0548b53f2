import Scaffold.Proofs.DocumentSpelling

/-!
# Documents written as JSON

The natural JSON object of a document is one of its spellings, and so a well-formed document that is
written is read back.  Only well-formed documents are ever read.
-/

namespace Scaffold

open Json

/-! ## The natural object -/

/-- The field, when there is a text. -/
def Fields.optional (name : String) : Option String → Fields
  | some s => [(name, .string s)]
  | none => []

def Gate.toFields (gate : Gate) : Fields :=
  Fields.optional "id" gate.id ++ Fields.optional "when" gate.when ++
    Fields.optional "confirm" gate.confirm

def FileWrite.toFields : FileWrite → Fields
  | .overwrite content => [("method", .string "w"), ("content", .string content)]
  | .append content => [("method", .string "a"), ("content", .string content)]
  | .replace pairs => [("method", .string "replace"), ("content", .object (Fields.ofTexts pairs))]

def QuestionKind.toFields : QuestionKind → Fields
  | .ask => [("questionType", .string "ask")]
  | .confirm => [("questionType", .string "confirm")]
  | .options choices =>
      [("questionType", .string "options"), ("options", .object (Fields.ofTexts choices))]

def Task.toFields : Task → Fields
  | .file job => ("name", .string job.name) :: job.write.toFields
  | .question q =>
      ("question", .string q.question) ::
        (q.kind.toFields ++ Fields.optional "defaultValue" q.default)
  | .registryDependencies names => [("registryDependencies", .array (names.map .string))]
  | .dependencies names => [("dependencies", .array (names.map .string))]
  | .run target => [("target", .string target)]
  | .log level message => [("logLevel", .string level.name), ("message", .string message)]

namespace Job

mutual
def toJson : Job → Json
  | .task gate action =>
      .object (gate.toFields ++
        ("type", .string (Job.task gate action).typeName) :: action.toFields)
  | .group gate base jobs =>
      .object (gate.toFields ++
        ("type", .string "group") :: (Fields.optional "base" base ++
          [("jobs", .array (listToJson jobs))]))

def listToJson : List Job → List Json
  | [] => []
  | job :: rest => job.toJson :: listToJson rest
end

end Job

def Document.toFields (d : Document) : Fields :=
  Fields.optional "name" d.name ++ Fields.optional "title" d.title ++
    Fields.optional "version" d.version ++ Fields.optional "description" d.description ++
    [("jobs", .array (Job.listToJson d.jobs)),
      ("dependencies", .array (d.dependencies.map Dependency.toJson)),
      ("registryDependencies", .array (d.registryDependencies.map .string)),
      ("definitions", .object (d.definitions.map fun entry => (entry.1, entry.2.toJson)))]

def Document.toJson (d : Document) : Json := .object d.toFields

@[simp] theorem Fields.mem_optional {name key : String} {s : Option String} {v : Json} :
    (name, v) ∈ Fields.optional key s ↔ name = key ∧ some v = s.map .string := by
  cases s <;> simp [Fields.optional]

/-- The fields of a body have none of the names of the gate, so that neither hides the other. -/
theorem Task.name_notMem_gateNames (task : Task) :
    ∀ field ∈ task.toFields, field.1 ∉ Job.gateNames := by
  cases task with
  | file job =>
      cases hwrite : job.write <;> simp [Task.toFields, FileWrite.toFields, hwrite, Job.gateNames]
  | question q =>
      cases hkind : q.kind <;> cases hdefault : q.default <;>
        simp [Task.toFields, QuestionKind.toFields, Fields.optional, hkind, hdefault,
          Job.gateNames]
  | registryDependencies names | dependencies names | run target | log level message =>
      simp [Task.toFields, Job.gateNames]

theorem Gate.spelled_toFields (gate : Gate) (type : String) {body : Fields}
    (hbody : ∀ field ∈ body, field.1 ∉ Job.gateNames) :
    gate.Spelled (gate.toFields ++ ("type", .string type) :: body) ∧
      Job.TypeSpelled type (gate.toFields ++ ("type", .string type) :: body) := by
  have hnone : ∀ name ∈ Job.gateNames, ∀ v, (name, v) ∉ body :=
    fun name hname v hv => hbody _ hv hname
  simp only [Job.gateNames, List.forall_mem_cons] at hnone
  obtain ⟨hid, hwhen, hconfirm, htype, -⟩ := hnone
  refine ⟨⟨?_, ?_, ?_⟩, .inl ?_⟩ <;> simp [Fields.Says, Gate.toFields, *]

theorem Task.spelled_toFields {gate : Gate} {task : Task} :
    task.Spelled (gate.toFields ++
      ("type", .string (Job.task gate task).typeName) :: task.toFields) := by
  cases task with
  | file job =>
      cases hwrite : job.write <;>
        simp [Task.Spelled, FileWrite.Spelled, Fields.Says, Task.toFields, FileWrite.toFields,
          Gate.toFields, hwrite]
  | question q =>
      cases hkind : q.kind <;>
        simp [Task.Spelled, QuestionKind.Spelled, Fields.Says, Task.toFields,
          QuestionKind.toFields, Gate.toFields, hkind]
  | registryDependencies names | dependencies names =>
      refine .inl ?_
      simp [Fields.Says, Task.toFields, Gate.toFields]
  | run target => simp [Task.Spelled, Fields.Says, Task.toFields, Gate.toFields]
  | log level message =>
      refine ⟨.inl ?_, ?_⟩ <;> simp [Fields.Says, Task.toFields, Gate.toFields]

namespace Job

mutual
theorem spelled_toJson {job : Job} : job.Spelled job.toJson := by
  match job with
  | .task gate action =>
      obtain ⟨hgate, htype⟩ :=
        gate.spelled_toFields (Job.task gate action).typeName action.name_notMem_gateNames
      exact ⟨_, by rw [toJson], hgate, htype, Task.spelled_toFields⟩
  | .group gate base jobs =>
      have hbody : ∀ field ∈ Fields.optional "base" base ++
          [("jobs", Json.array (listToJson jobs))], field.1 ∉ gateNames := by
        cases base <;> simp [Fields.optional, gateNames]
      obtain ⟨hgate, htype⟩ := gate.spelled_toFields "group" hbody
      refine ⟨_, listToJson jobs, by rw [toJson], hgate, htype, ?_, .inl ?_,
        allSpelled_listToJson⟩
      · simp [Fields.Says, Gate.toFields]
      · simp [Fields.Says, Gate.toFields]

theorem allSpelled_listToJson {jobs : List Job} : AllSpelled jobs (listToJson jobs) := by
  match jobs with
  | [] => trivial
  | job :: rest => exact ⟨spelled_toJson, allSpelled_listToJson⟩
end

end Job

theorem Document.spelled_toJson {d : Document} : d.Spelled d.toJson := by
  refine ⟨d.toFields, rfl, ?_⟩
  -- No two fields have the same name, so that each says only what was written for it.
  constructor
  case jobs =>
    refine ⟨Job.listToJson d.jobs, .inl ?_, Job.allSpelled_listToJson⟩
    simp [Fields.Says, Document.toFields]
  case definitions =>
    refine ⟨d.definitions.map fun entry => (entry.1, entry.2.toJson), .inl ?_, ?_⟩
    · simp [Fields.Says, Document.toFields]
    · exact List.forall₂_map_right_iff.mpr
        (List.forall₂_same.mpr fun entry _ => ⟨rfl, Job.spelled_toJson⟩)
  case dependencies => exact .inl (by simp [Fields.Says, Document.toFields])
  case registryDependencies => exact .inl (by simp [Fields.Says, Document.toFields])
  all_goals simp [Fields.Says, Document.toFields]

/-- A well-formed document comes back from its natural object and from every other spelling. -/
theorem Document.reads_spellings {d : Document} (hwell : d.WellFormed) :
    ofJson d.toJson = .ok d ∧ ∀ v, d.Spelled v → ofJson v = .ok d :=
  ⟨ofJson_of_spelled hwell spelled_toJson, fun _ hspelled => ofJson_of_spelled hwell hspelled⟩

/-- A group within a group, with jobs for which there are shorter forms. -/
def Job.sources : Job :=
  .group ⟨none, none, none⟩ (some "src")
    [ .task ⟨none, none, none⟩ (.file ⟨"main.ts", .overwrite "start()"⟩),
      .group ⟨none, some "$kind == 'app'", none⟩ none
        [ .task ⟨none, none, none⟩ (.file ⟨"index.html", .replace [("TITLE", "App")]⟩),
          .task ⟨none, some "$kind", none⟩ (.dependencies ["vite"]) ] ]

/-- The shortest forms: no types of the files, no method of the one that is written, the
replacements in the place of the method of the other, and the one package alone. -/
def Job.sourcesShort : Json :=
  .object
    [ ("type", .string "group"), ("base", .string "src"),
      ("jobs", .array
        [ .object [("name", .string "main.ts"), ("content", .string "start()")],
          .object
            [ ("when", .string "$kind == 'app'"), ("type", .string "group"),
              ("jobs", .array
                [ .object
                    [ ("method", .object [("TITLE", .string "App")]),
                      ("name", .string "index.html") ],
                  .object
                    [ ("dependencies", .string "vite"), ("when", .string "$kind"),
                      ("type", .string "dependencies") ] ]) ] ]) ]

theorem Job.sources_spelled : sources.Spelled sourcesShort := by
  have hgate : ∀ {gate : Gate} {fields : Fields}, (fields.map Prod.fst).Nodup →
      Fields.get? "id" fields = gate.id.map .string →
      Fields.get? "when" fields = gate.when.map .string →
      Fields.get? "confirm" fields = gate.confirm.map .string → gate.Spelled fields :=
    fun hdistinct hid hwhen hconfirm =>
      ⟨Fields.says_of_get? hdistinct hid, Fields.says_of_get? hdistinct hwhen,
        Fields.says_of_get? hdistinct hconfirm⟩
  refine ⟨_, _, rfl, hgate (by decide) rfl rfl rfl, .inl (Fields.says_of_get? (by decide) rfl),
    Fields.says_of_get? (by decide) rfl, .inl (Fields.says_of_get? (by decide) rfl), ?main, ?app,
    trivial⟩
  case main =>
    exact ⟨_, rfl, hgate (by decide) rfl rfl rfl,
      .inr ⟨rfl, Fields.says_of_get? (by decide) rfl⟩, Fields.says_of_get? (by decide) rfl,
      .inr (Fields.says_of_get? (by decide) rfl), Fields.says_of_get? (by decide) rfl⟩
  case app =>
    refine ⟨_, _, rfl, hgate (by decide) rfl rfl rfl, .inl (Fields.says_of_get? (by decide) rfl),
      Fields.says_of_get? (by decide) rfl, .inl (Fields.says_of_get? (by decide) rfl), ?page,
      ?package, trivial⟩
    case page =>
      exact ⟨_, rfl, hgate (by decide) rfl rfl rfl,
        .inr ⟨rfl, Fields.says_of_get? (by decide) rfl⟩, Fields.says_of_get? (by decide) rfl,
        .inr (Fields.says_of_get? (by decide) rfl)⟩
    case package =>
      exact ⟨_, rfl, hgate (by decide) rfl rfl rfl, .inl (Fields.says_of_get? (by decide) rfl),
        .inr ⟨"vite", rfl, Fields.says_of_get? (by decide) rfl⟩⟩

def Job.kindQuestion : Job :=
  .task ⟨some "kind", none, none⟩
    (.question ⟨"Kind?", some "app", .options [("app", "App"), ("lib", "Library")]⟩)

def Job.farewell : Job := .task ⟨none, none, some "Done?"⟩ (.log .log "Done")

def Document.starter : Document where
  name := some "starter"
  title := none
  version := none
  description := none
  jobs := [Job.kindQuestion, Job.sources]
  dependencies := [.versioned [("typescript", "5")], .package "eslint"]
  registryDependencies := []
  definitions := [("farewell", Job.farewell)]

def Document.starterShort : Json :=
  .object
    [ ("jobs", .array [Job.kindQuestion.toJson, Job.sourcesShort]),
      ("name", .string "starter"),
      ("dependencies", .array [.object [("typescript", .string "5")], .string "eslint"]),
      ("definitions", .object [("farewell", Job.farewell.toJson)]) ]

theorem Document.starter_wellFormed : starter.WellFormed := by
  constructor
  · simp [starter, Job.kindQuestion, Job.sources, Job.AllWellFormed, Job.WellFormed, Job.Placed,
      Job.typeName, Task.Named, Task.Offers]
  · simp [starter, Job.farewell, Job.WellFormed, Job.Placed, Task.Named, Task.Offers]

theorem Document.starter_spelled : starter.Spelled starterShort := by
  refine ⟨_, rfl, ?_⟩
  constructor
  case jobs =>
    exact ⟨_, .inl (Fields.says_of_get? (by decide) rfl), Job.spelled_toJson, Job.sources_spelled,
      trivial⟩
  case definitions =>
    exact ⟨_, .inl (Fields.says_of_get? (by decide) rfl), .cons ⟨rfl, Job.spelled_toJson⟩ .nil⟩
  case dependencies => exact .inl (Fields.says_of_get? (by decide) rfl)
  case registryDependencies => exact .inr ⟨rfl, Fields.says_of_get? (by decide) rfl⟩
  all_goals exact Fields.says_of_get? (by decide) rfl

theorem Document.reads_spellings_starter :
    starter.WellFormed ∧ starter.Spelled starterShort ∧ ofJson starter.toJson = .ok starter ∧
      ofJson starterShort = .ok starter :=
  ⟨starter_wellFormed, starter_spelled, (reads_spellings starter_wellFormed).1,
    (reads_spellings starter_wellFormed).2 _ starter_spelled⟩

/-! ## What is read is well-formed -/

namespace Job

theorem offers_of_readQuestionKind {id : String} {body : Fields} {kind : QuestionKind}
    (hread : readQuestionKind id body = .ok kind) : kind ≠ .options [] := by
  unfold readQuestionKind at hread
  split at hread
  · obtain rfl := Except.ok.inj hread
    exact QuestionKind.noConfusion
  · obtain rfl := Except.ok.inj hread
    exact QuestionKind.noConfusion
  · split at hread
    · cases hread
    · next hsome =>
        obtain rfl := Except.ok.inj hread
        exact fun hempty => hsome (QuestionKind.options.inj hempty)
  · cases hread

theorem offers_of_readTask {type : String} {id : Option String} {body : Fields} {task : Task}
    (hread : readTask type id body = .ok task) : task.Offers := by
  rcases readTask_cases hread with ⟨-, _, rfl⟩ | ⟨-, _, kind, -, hkind, rfl⟩ | ⟨-, _, rfl⟩ |
    ⟨-, _, rfl⟩ | ⟨-, _, rfl⟩ | ⟨-, _, _, rfl⟩
  · trivial
  · exact offers_of_readQuestionKind hkind
  · trivial
  · trivial
  · trivial
  · trivial

theorem readInvariant_wellFormed : ReadInvariant WellFormed where
  task htask hcheck :=
    ⟨exists_checkPosition_iff.mp ⟨_, hcheck⟩, named_of_readTask htask, offers_of_readTask htask⟩
  group hjobs hcheck :=
    ⟨exists_checkPosition_iff.mp ⟨_, hcheck⟩, allWellFormed_iff.mpr hjobs⟩

end Job

theorem Document.wellFormed_of_ofJson {v : Json} {d : Document} (hread : ofJson v = .ok d) :
    d.WellFormed := by
  obtain ⟨hjobs, hdefinitions⟩ := Job.readInvariant_wellFormed.of_document hread
  exact ⟨Job.allWellFormed_iff.mpr hjobs, hdefinitions⟩

/-- The well-formed documents are those that some value reads as. -/
theorem Document.wellFormed_iff_exists_ofJson {d : Document} :
    d.WellFormed ↔ ∃ v, ofJson v = .ok d :=
  ⟨fun hwell => ⟨d.toJson, ofJson_of_spelled hwell spelled_toJson⟩,
    fun ⟨_, hread⟩ => wellFormed_of_ofJson hread⟩

end Scaffold
