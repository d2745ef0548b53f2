import Mathlib.Tactic.Common
import Scaffold.Document.Reader
import Scaffold.Guard.When
import Scaffold.Pattern.Parser

/-!
# Jobs that have been read

What holds of each gate and each task of a job at any depth.  Reading a document vouches for the ids
of its questions.
-/

namespace Scaffold

theorem Except.bind_eq_ok_iff {ε α β : Type} {r : Except ε α} {next : α → Except ε β} {b : β} :
    (r >>= next) = .ok b ↔ ∃ a, r = .ok a ∧ next a = .ok b := by
  cases r <;> simp [bind, Except.bind]

theorem Except.map_eq_ok_iff {ε α β : Type} {r : Except ε α} {f : α → β} {b : β} :
    r.map f = .ok b ↔ ∃ a, r = .ok a ∧ f a = b := by
  cases r <;> simp [Except.map]

mutual
/-- Each gate of the job, at any depth, has the one property, and each task the other. -/
def Job.Every (ofGate : Gate → Prop) (ofTask : Gate → Task → Prop) : Job → Prop
  | .task gate action => ofGate gate ∧ ofTask gate action
  | .group gate _ jobs => ofGate gate ∧ Job.AllEvery ofGate ofTask jobs

def Job.AllEvery (ofGate : Gate → Prop) (ofTask : Gate → Task → Prop) : List Job → Prop
  | [] => True
  | job :: rest => job.Every ofGate ofTask ∧ Job.AllEvery ofGate ofTask rest
end

theorem Job.allEvery_iff {ofGate : Gate → Prop} {ofTask : Gate → Task → Prop}
    {jobs : List Job} :
    Job.AllEvery ofGate ofTask jobs ↔ ∀ job ∈ jobs, job.Every ofGate ofTask := by
  induction jobs with
  | nil => simp [Job.AllEvery]
  | cons job rest ih => simp [Job.AllEvery, ih]

mutual
theorem Job.Every.and {ofGate ofGate' : Gate → Prop} {ofTask ofTask' : Gate → Task → Prop}
    {job : Job} (hfirst : job.Every ofGate ofTask) (hsecond : job.Every ofGate' ofTask') :
    job.Every (fun gate => ofGate gate ∧ ofGate' gate)
      fun gate task => ofTask gate task ∧ ofTask' gate task := by
  match job with
  | .task _ _ => exact ⟨⟨hfirst.1, hsecond.1⟩, hfirst.2, hsecond.2⟩
  | .group _ _ jobs => exact ⟨⟨hfirst.1, hsecond.1⟩, Job.allEvery_and hfirst.2 hsecond.2⟩

theorem Job.allEvery_and {ofGate ofGate' : Gate → Prop} {ofTask ofTask' : Gate → Task → Prop}
    {jobs : List Job} (hfirst : Job.AllEvery ofGate ofTask jobs)
    (hsecond : Job.AllEvery ofGate' ofTask' jobs) :
    Job.AllEvery (fun gate => ofGate gate ∧ ofGate' gate)
      (fun gate task => ofTask gate task ∧ ofTask' gate task) jobs := by
  match jobs with
  | [] => trivial
  | job :: rest =>
      exact ⟨hfirst.1.and hsecond.1, Job.allEvery_and hfirst.2 hsecond.2⟩
end

structure Document.Every (ofGate : Gate → Prop) (ofTask : Gate → Task → Prop)
    (d : Document) : Prop where
  jobs : ∀ job ∈ d.jobs, job.Every ofGate ofTask
  definitions : ∀ entry ∈ d.definitions, entry.2.Every ofGate ofTask

def Gate.Readable (gate : Gate) : Prop :=
  ∀ expression ∈ gate.when, ∃ condition, Guard.conditionOf expression = .ok condition

def Task.Compiles : Task → Prop
  | .file ⟨_, .replace pairs⟩ => ∀ pair ∈ pairs, ∃ p, Pattern.compile pair.1 = .ok p
  | _ => True

/-- Only behind a gate with an id stands a question. -/
def Task.Named (gate : Gate) : Task → Prop
  | .question _ => ∃ id, gate.id = some id
  | _ => True

namespace Job

theorem eq_of_checkPosition {position : Position} {job checked : Job}
    (hcheck : checkPosition position job = .ok checked) : checked = job := by
  unfold checkPosition at hcheck
  split at hcheck <;> simp_all

theorem question_of_readQuestion {id : Option String} {body : Fields} {task : Task}
    (hread : readQuestion id body = .ok task) :
    ∃ key kind, id = some key ∧ readQuestionKind key body = .ok kind ∧
      task = .question ⟨Fields.textD "question" body, readDefault body, kind⟩ := by
  obtain ⟨-, -, hread⟩ := Except.bind_eq_ok_iff.mp hread
  cases id with
  | none => simp [throw, throwThe, MonadExceptOf.throw] at hread
  | some key =>
      obtain ⟨kind, hkind, hok⟩ := Except.bind_eq_ok_iff.mp hread
      exact ⟨key, kind, rfl, hkind, (Except.ok.inj hok).symm⟩

/-- What a type can be, and the task that comes of it. -/
theorem readTask_cases {type : String} {id : Option String} {body : Fields} {task : Task}
    (hread : readTask type id body = .ok task) :
    (type = "file" ∧ ∃ job, task = .file job) ∨
    (type = "question" ∧ ∃ key kind, id = some key ∧ readQuestionKind key body = .ok kind ∧
      task = .question ⟨Fields.textD "question" body, readDefault body, kind⟩) ∨
    (type = "registryDependencies" ∧ ∃ names, task = .registryDependencies names) ∨
    (type = "dependencies" ∧ ∃ names, task = .dependencies names) ∨
    (type = "run" ∧ ∃ target, task = .run target) ∨
    (type = "log" ∧ ∃ level message, task = .log level message) := by
  unfold readTask at hread
  split at hread
  · simp only [readFile, Except.bind_eq_ok_iff] at hread
    obtain ⟨-, -, write, -, hok⟩ := hread
    exact .inl ⟨rfl, _, (Except.ok.inj hok).symm⟩
  · exact .inr (.inl ⟨rfl, question_of_readQuestion hread⟩)
  · obtain ⟨names, -, rfl⟩ := Except.map_eq_ok_iff.mp hread
    exact .inr (.inr (.inl ⟨rfl, names, rfl⟩))
  · obtain ⟨names, -, rfl⟩ := Except.map_eq_ok_iff.mp hread
    exact .inr (.inr (.inr (.inl ⟨rfl, names, rfl⟩)))
  · obtain ⟨-, -, hok⟩ := Except.bind_eq_ok_iff.mp hread
    exact .inr (.inr (.inr (.inr (.inl ⟨rfl, _, (Except.ok.inj hok).symm⟩))))
  · obtain ⟨-, -, hok⟩ := Except.bind_eq_ok_iff.mp hread
    exact .inr (.inr (.inr (.inr (.inr ⟨rfl, _, _, (Except.ok.inj hok).symm⟩))))
  · simp at hread

theorem named_of_readTask {type : String} {gate : Gate} {body : Fields} {task : Task}
    (hread : readTask type gate.id body = .ok task) : task.Named gate := by
  rcases readTask_cases hread with ⟨-, _, rfl⟩ | ⟨-, key, kind, hid, -, rfl⟩ | ⟨-, _, rfl⟩ |
    ⟨-, _, rfl⟩ | ⟨-, _, rfl⟩ | ⟨-, _, _, rfl⟩
  · trivial
  · exact ⟨key, hid⟩
  · trivial
  · trivial
  · trivial
  · trivial

/-- What holds of each task that is read where it may stand, and of each group if it holds of the
jobs in it. -/
structure ReadInvariant (P : Position → Job → Prop) : Prop where
  task : ∀ {position : Position} {type : String} {gate : Gate} {body : Fields} {task : Task},
    readTask type gate.id body = .ok task →
      checkPosition position (.task gate task) = .ok (.task gate task) →
        P position (.task gate task)
  group : ∀ {position : Position} {gate : Gate} {base : Option String} {jobs : List Job},
    (∀ job ∈ jobs, P .inList job) →
      checkPosition position (.group gate base jobs) = .ok (.group gate base jobs) →
        P position (.group gate base jobs)

namespace ReadInvariant

variable {P : Position → Job → Prop}

mutual
theorem of_ofJson (hinvariant : ReadInvariant P) {position : Position} {v : Json} {job : Job}
    (hread : ofJson position v = .ok job) : P position job := by
  match v, hread with
  | .object fields, hread =>
      rw [ofJson] at hread
      obtain ⟨-, -, hread⟩ := Except.bind_eq_ok_iff.mp hread
      dsimp only at hread
      split at hread
      · obtain ⟨-, -, hread⟩ := Except.bind_eq_ok_iff.mp hread
        obtain ⟨jobs, hjobs, hcheck⟩ := Except.bind_eq_ok_iff.mp hread
        obtain rfl := eq_of_checkPosition hcheck
        exact hinvariant.group (hinvariant.of_listOfJson hjobs) hcheck
      · obtain ⟨task, htask, hcheck⟩ := Except.bind_eq_ok_iff.mp hread
        obtain rfl := eq_of_checkPosition hcheck
        exact hinvariant.task htask hcheck
  | .null, hread | .bool _, hread | .number _, hread | .string _, hread | .array _, hread =>
      simp [ofJson] at hread
termination_by sizeOf v
decreasing_by exact sizeOf_items_lt "jobs" fields

theorem of_listOfJson (hinvariant : ReadInvariant P) {values : List Json} {jobs : List Job}
    (hread : listOfJson values = .ok jobs) : ∀ job ∈ jobs, P .inList job := by
  match values, hread with
  | [], hread =>
      rw [listOfJson] at hread
      obtain rfl := Except.ok.inj hread
      simp
  | v :: rest, hread =>
      rw [listOfJson] at hread
      obtain ⟨job, hjob, hread⟩ := Except.bind_eq_ok_iff.mp hread
      obtain ⟨jobs, hjobs, hok⟩ := Except.bind_eq_ok_iff.mp hread
      obtain rfl := Except.ok.inj hok
      rw [List.forall_mem_cons]
      exact ⟨hinvariant.of_ofJson hjob, hinvariant.of_listOfJson hjobs⟩
termination_by sizeOf values
end

theorem of_definitionsOfJson (hinvariant : ReadInvariant P) {fields : Fields}
    {definitions : Definitions} (hread : definitionsOfJson fields = .ok definitions) :
    ∀ entry ∈ definitions, P .definition entry.2 := by
  induction fields generalizing definitions with
  | nil =>
      obtain rfl := Except.ok.inj hread
      simp
  | cons field rest ih =>
      obtain ⟨job, hjob, hread⟩ := Except.bind_eq_ok_iff.mp hread
      obtain ⟨others, hothers, hok⟩ := Except.bind_eq_ok_iff.mp hread
      obtain rfl := Except.ok.inj hok
      rw [List.forall_mem_cons]
      exact ⟨hinvariant.of_ofJson hjob, ih hothers⟩

theorem of_document (hinvariant : ReadInvariant P) {v : Json} {d : Document}
    (hread : Document.ofJson v = .ok d) :
    (∀ job ∈ d.jobs, P .inList job) ∧ ∀ entry ∈ d.definitions, P .definition entry.2 := by
  cases v with
  | object fields =>
      obtain ⟨-, -, hread⟩ := Except.bind_eq_ok_iff.mp hread
      obtain ⟨jobs, hjobs, hread⟩ := Except.bind_eq_ok_iff.mp hread
      obtain ⟨definitions, hdefinitions, hok⟩ := Except.bind_eq_ok_iff.mp hread
      obtain rfl := Except.ok.inj hok
      exact ⟨hinvariant.of_listOfJson hjobs, hinvariant.of_definitionsOfJson hdefinitions⟩
  | null | bool _ | number _ | string _ | array _ => simp [Document.ofJson] at hread

end ReadInvariant

theorem readInvariant_named :
    ReadInvariant fun _ job => job.Every (fun _ => True) Task.Named where
  task htask _ := ⟨trivial, named_of_readTask htask⟩
  group hjobs _ := ⟨trivial, allEvery_iff.mpr hjobs⟩

end Job

theorem Document.named_of_ofJson {v : Json} {d : Document}
    (hread : Document.ofJson v = .ok d) : d.Every (fun _ => True) Task.Named := by
  obtain ⟨hjobs, hdefinitions⟩ := Job.readInvariant_named.of_document hread
  exact ⟨hjobs, hdefinitions⟩

end Scaffold
