import Scaffold.Document.Basic
import Scaffold.Error
import Scaffold.Json.Parser
import Scaffold.Json.Shape

/-!
# Reading documents

A document is read from JSON in one pass that stops at the first fault: the fields of the document
itself come first, then its jobs in order, then its definitions in order.  Within a job the gate is
read before the body, the children of a group in order, and the rule that ties the job to the place
where it stands comes last.
-/

namespace Scaffold

open Json

/-- Jobs of a list may carry a guard, and dependency jobs must; definitions may not. -/
inductive Position where
  | inList
  | definition
deriving DecidableEq, Repr

/-- Faults in the body of a job. -/
inductive JobFault where
  | mismatch (m : Mismatch)
  | notObject (kind : String)
  | missingContent
  | contentNotText (kind : String)
  | badReplacements
  | unknownMethod (name : String)
  | badMethod (kind : String)
  | questionWithoutId
  | noOptions
  | guardedDefinition

def JobFault.message : JobFault → String
  | .mismatch m => m.message
  | .notObject kind => s!"expected an object, found {kind}"
  | .missingContent => "missing `content`"
  | .contentNotText kind => s!"`content` must be a string, found {kind}"
  | .badReplacements => "replacements must be an object of strings"
  | .unknownMethod name =>
      s!"unknown method '{name}', expected \"w\", \"a\" or \"replace\""
  | .badMethod kind => s!"`method` must be a string or an object, found {kind}"
  | .questionWithoutId => "question jobs require an `id`"
  | .noOptions => "`options` questions need a non-empty `options` map"
  | .guardedDefinition => "definitions cannot declare `when`; guard the `run` job instead"

def faultOf (id : Option String) (fault : JobFault) : DocumentError :=
  .invalidJob id fault.message

def optionalText (name : String) : FieldRule := ⟨name, .optional .text, false⟩

def requiredText (name : String) : FieldRule := ⟨name, .text, true⟩

namespace Document

def rules : RecordRules :=
  [ optionalText "name", optionalText "title", optionalText "version",
    optionalText "description",
    ⟨"jobs", .list .anything, false⟩,
    ⟨"dependencies", .list .dependency, false⟩,
    ⟨"registryDependencies", .list .text, false⟩,
    ⟨"definitions", .map .anything, false⟩ ]

end Document

def Dependency.ofJson : Json → Dependency
  | .object fields => .versioned (Fields.textEntries fields)
  | v => .package (v.text?.getD "")

namespace Job

/-- The fields of the gate and the type stand apart from the body of the job. -/
def gateNames : List String := ["id", "when", "confirm", "type"]

def gateRules : RecordRules := gateNames.map optionalText

def fileRules : RecordRules :=
  [ requiredText "name", ⟨"content", .anything, false⟩, ⟨"method", .anything, false⟩ ]

def questionRules : RecordRules :=
  [ requiredText "question", requiredText "questionType",
    ⟨"defaultValue", .anything, false⟩, ⟨"options", .optional (.map .text), false⟩ ]

def groupRules : RecordRules := [ ⟨"jobs", .list .anything, false⟩, optionalText "base" ]

def runRules : RecordRules := [ requiredText "target" ]

def logRules : RecordRules :=
  [ ⟨"logLevel", .choice (LogLevel.all.map LogLevel.name), false⟩, requiredText "message" ]

def readContent : Json → Except JobFault String
  | .string s => .ok s
  | .null => .error .missingContent
  | v => .error (.contentNotText v.kindName)

def readReplacements : Json → Except JobFault (List (String × String))
  | .object fields =>
      if fields.all fun field => Shape.isText field.2 then .ok (Fields.textEntries fields)
      else .error .badReplacements
  | _ => .error .badReplacements

/-- The method `w` is the default; an object as method is a map of replacements. -/
def readWrite (method content : Json) : Except JobFault FileWrite :=
  match method with
  | .null => (readContent content).map .overwrite
  | .string "w" => (readContent content).map .overwrite
  | .string "a" => (readContent content).map .append
  | .string "replace" => (readReplacements content).map .replace
  | .string other => .error (.unknownMethod other)
  | .object fields => (readReplacements (.object fields)).map .replace
  | v => .error (.badMethod v.kindName)

/-- The name of a level, alone or as the key of an object. -/
def readLevel (body : Fields) : LogLevel :=
  match Fields.get? "logLevel" body with
  | some (.string s) => (LogLevel.ofName? s).getD .log
  | some (.object [(s, _)]) => (LogLevel.ofName? s).getD .log
  | _ => .log

/-- A default is a text or the compact JSON of any other value, and null is none. -/
def readDefault (body : Fields) : Option String :=
  match Fields.get? "defaultValue" body with
  | none => none
  | some .null => none
  | some (.string s) => some s
  | some v => some v.compact

def conform (id : Option String) (rules : RecordRules) (body : Fields) :
    Except DocumentError Unit :=
  (rules.check body).mapError fun m => faultOf id (.mismatch m)

def readFile (id : Option String) (body : Fields) : Except DocumentError Task := do
  conform id fileRules body
  let method := (Fields.get? "method" body).getD .null
  let content := (Fields.get? "content" body).getD .null
  let write ← (readWrite method content).mapError (faultOf id)
  return .file ⟨Fields.textD "name" body, write⟩

def readQuestionKind (id : String) (body : Fields) : Except DocumentError QuestionKind :=
  match Fields.textD "questionType" body with
  | "ask" => .ok .ask
  | "confirm" => .ok .confirm
  | "options" =>
      match Fields.textEntries (Fields.entries "options" body) with
      | [] => .error (faultOf (some id) .noOptions)
      | choices => .ok (.options choices)
  | other => .error (.unknownQuestionType id other)

def readQuestion (id : Option String) (body : Fields) : Except DocumentError Task := do
  conform id questionRules body
  match id with
  | none => throw (faultOf id .questionWithoutId)
  | some id =>
      let kind ← readQuestionKind id body
      return .question ⟨Fields.textD "question" body, readDefault body, kind⟩

/-- A list of names, or one name alone. -/
def readNames (field : String) (body : Fields) : Except DocumentError (List String) :=
  match Fields.get? field body with
  | some (.string s) => .ok [s]
  | some (.array items) =>
      items.mapM fun item =>
        match item with
        | .string s => .ok s
        | v => .error (.invalidDependencies field v.kindName)
  | some v => .error (.invalidDependencies field v.kindName)
  | none => .error (.invalidDependencies field "null")

/-- The task of a job of that type; groups are no tasks. -/
def readTask (type : String) (id : Option String) (body : Fields) :
    Except DocumentError Task :=
  match type with
  | "file" => readFile id body
  | "question" => readQuestion id body
  | "registryDependencies" =>
      (readNames "registryDependencies" body).map .registryDependencies
  | "dependencies" => (readNames "dependencies" body).map .dependencies
  | "run" => do
      conform id runRules body
      return .run (Fields.textD "target" body)
  | "log" => do
      conform id logRules body
      return .log (readLevel body) (Fields.textD "message" body)
  | other => .error (.unknownJobType other)

/-- The rule that ties a job to the place where it stands. -/
def checkPosition (position : Position) (job : Job) : Except DocumentError Job :=
  match position, job.gate.when, job with
  | .definition, some _, _ => .error (faultOf job.gate.id .guardedDefinition)
  | .inList, none, .task _ (.dependencies _) => .error (.missingGuard "dependencies")
  | .inList, none, .task _ (.registryDependencies _) =>
      .error (.missingGuard "registryDependencies")
  | _, _, job => .ok job

theorem sizeOf_items_lt (name : String) (fields : Fields) :
    sizeOf (Fields.items name fields) < sizeOf (Json.object fields) := by
  unfold Fields.items
  split
  · next items h =>
      have := Fields.sizeOf_get?_lt h
      simp at this ⊢
      omega
  · rw [List.nil.sizeOf_spec, Json.object.sizeOf_spec]
    have : 0 < sizeOf fields := by
      cases fields with
      | nil => rw [List.nil.sizeOf_spec]; omega
      | cons field rest => rw [List.cons.sizeOf_spec]; omega
    omega

mutual
def ofJson (position : Position) (v : Json) : Except DocumentError Job :=
  match v with
  | .object fields => do
      conform none gateRules fields
      let gate : Gate :=
        ⟨Fields.text? "id" fields, Fields.text? "when" fields, Fields.text? "confirm" fields⟩
      let type := (Fields.text? "type" fields).getD "file"
      let body := Fields.without gateNames fields
      if type = "group" then
        conform gate.id groupRules body
        let jobs ← listOfJson (Fields.items "jobs" fields)
        checkPosition position (.group gate (Fields.text? "base" body) jobs)
      else
        let task ← readTask type gate.id body
        checkPosition position (.task gate task)
  | v => .error (faultOf none (.notObject v.kindName))
termination_by sizeOf v
decreasing_by exact sizeOf_items_lt "jobs" fields

def listOfJson (values : List Json) : Except DocumentError (List Job) :=
  match values with
  | [] => .ok []
  | v :: rest => do
      let job ← ofJson .inList v
      let jobs ← listOfJson rest
      return job :: jobs
termination_by sizeOf values
end

/-- The definitions in order, each read as a job of its own. -/
def definitionsOfJson : Fields → Except DocumentError Definitions
  | [] => .ok []
  | (name, v) :: rest => do
      let job ← ofJson .definition v
      let definitions ← definitionsOfJson rest
      return (name, job) :: definitions

end Job

namespace Document

def ofJson : Json → Except DocumentError Document
  | .object fields => do
      (rules.check fields).mapError fun m => .invalidDocument m.message
      let jobs ← Job.listOfJson (Fields.items "jobs" fields)
      let definitions ← Job.definitionsOfJson (Fields.entries "definitions" fields)
      return {
        name := Fields.text? "name" fields
        title := Fields.text? "title" fields
        version := Fields.text? "version" fields
        description := Fields.text? "description" fields
        jobs
        dependencies := (Fields.items "dependencies" fields).map Dependency.ofJson
        registryDependencies := Fields.texts "registryDependencies" fields
        definitions }
  | v =>
      .error (.invalidDocument
        ("expected an object at the top level, found " ++ v.kindName))

def parse (text : String) : Except DocumentError Document :=
  match Json.parse text with
  | .error e => .error (.invalidDocument e.message)
  | .ok v => ofJson v

end Document
end Scaffold
