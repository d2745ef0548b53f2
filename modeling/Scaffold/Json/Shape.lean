import Scaffold.Json.Printer
import Scaffold.Text.Quoted

/-!
# Shapes of JSON values

A record is described by the names and shapes of its fields.  Its fields are checked in the order in
which they stand, the first one of a wrong shape is reported, and fields that are not described are
passed over; only then is a required field found missing.
-/

namespace Scaffold
namespace Json

inductive Shape where
  | anything
  | text
  | list (item : Shape)
  | map (value : Shape)
  /-- One of the names, alone or as the only key of an object that maps it to null. -/
  | choice (names : List String)
  /-- A text, or an object of texts. -/
  | dependency
  /-- Null stands for an absent value. -/
  | optional (shape : Shape)
deriving Repr

inductive Mismatch where
  | wrongType (found : Json) (expected : String)
  | missing (name : String)
  | unknownChoice (name : String) (names : List String)
  | notSingleKey
  | notDependency
deriving Repr

/-- What was found in place of something else. -/
def describe : Json → String
  | .null => "null"
  | .bool b => if b then "boolean `true`" else "boolean `false`"
  | .number (.whole n) => s!"integer `{n}`"
  | .number (.real x) => "floating point `" ++ realText x ++ "`"
  | .string s => "string " ++ Text.quoted s
  | .array _ => "sequence"
  | .object _ => "map"

def Mismatch.message : Mismatch → String
  | .wrongType found expected => "invalid type: " ++ describe found ++ ", expected " ++ expected
  | .missing name => s!"missing field `{name}`"
  | .unknownChoice name names =>
      let listed := ", ".intercalate (names.map fun n => s!"`{n}`")
      s!"unknown variant `{name}`, expected one of {listed}"
  | .notSingleKey => "invalid value: map, expected map with a single key"
  | .notDependency => "data did not match any variant of untagged enum DependencySpec"

namespace Shape

/-- Checks the items in order and stops at the first that fails. -/
def firstMismatch {α : Type} (check : α → Except Mismatch Unit) : List α → Except Mismatch Unit
  | [] => .ok ()
  | x :: rest =>
      match check x with
      | .error e => .error e
      | .ok () => firstMismatch check rest

def checkText : Json → Except Mismatch Unit
  | .string _ => .ok ()
  | v => .error (.wrongType v "a string")

def checkChoice (names : List String) : Json → Except Mismatch Unit
  | .string s => if s ∈ names then .ok () else .error (.unknownChoice s names)
  | .object [(name, content)] =>
      if name ∈ names then
        match content with
        | .null => .ok ()
        | v => .error (.wrongType v "unit")
      else .error (.unknownChoice name names)
  | .object _ => .error .notSingleKey
  | v => .error (.wrongType v "string or map")

def isText : Json → Bool
  | .string _ => true
  | _ => false

def checkDependency : Json → Except Mismatch Unit
  | .string _ => .ok ()
  | .object fields =>
      if fields.all fun field => isText field.2 then .ok () else .error .notDependency
  | _ => .error .notDependency

def check : Shape → Json → Except Mismatch Unit
  | .anything, _ => .ok ()
  | .text, v => checkText v
  | .list item, .array items => firstMismatch (check item) items
  | .list _, v => .error (.wrongType v "a sequence")
  | .map value, .object fields => firstMismatch (fun field => check value field.2) fields
  | .map _, v => .error (.wrongType v "a map")
  | .choice names, v => checkChoice names v
  | .dependency, v => checkDependency v
  | .optional _, .null => .ok ()
  | .optional shape, v => check shape v

end Shape

structure FieldRule where
  name : String
  shape : Shape
  required : Bool

abbrev RecordRules := List FieldRule

namespace RecordRules

def shapeOf? (rules : RecordRules) (name : String) : Option Shape :=
  (rules.find? fun rule => rule.name == name).map FieldRule.shape

/-- The fields have the shapes of the rules, and none that is required is absent. -/
def check (rules : RecordRules) (fields : Fields) : Except Mismatch Unit := do
  Shape.firstMismatch
    (fun field =>
      match rules.shapeOf? field.1 with
      | some shape => shape.check field.2
      | none => .ok ())
    fields
  Shape.firstMismatch
    (fun rule =>
      if rule.required && !(Fields.get? rule.name fields).isSome then .error (.missing rule.name)
      else .ok ())
    rules

end RecordRules
end Json

namespace Fields

/-- The text of that name, if there is one. -/
def text? (name : String) (fields : Fields) : Option String :=
  (get? name fields).bind Json.text?

def textD (name : String) (fields : Fields) : String := (text? name fields).getD ""

/-- The items of the list of that name; none when it is absent. -/
def items (name : String) (fields : Fields) : List Json :=
  match get? name fields with
  | some (.array items) => items
  | _ => []

def texts (name : String) (fields : Fields) : List String :=
  (items name fields).filterMap Json.text?

/-- The entries of the object of that name; none when it is absent. -/
def entries (name : String) (fields : Fields) : Fields :=
  match get? name fields with
  | some (.object entries) => entries
  | _ => []

def textEntries (fields : Fields) : List (String × String) :=
  fields.filterMap fun field => field.2.text?.map (field.1, ·)

end Fields
end Scaffold
