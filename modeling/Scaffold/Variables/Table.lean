import Scaffold.Json.Printer
import Scaffold.Variables.Reference

/-!
# Variable tables

A table is a JSON object whose values are reached by dot paths: `user.name` is the field `name` of
the object in the field `user`.  A value is read as text, and null counts as no value.
-/

namespace Scaffold

structure VariableTable where
  fields : Fields
deriving Repr, Inhabited

namespace VariableTable

def empty : VariableTable := ⟨[]⟩

/-- The segments between the dots. -/
def segments (path : String) : List String :=
  (Text.pieces (· == '.') path.toList).map String.ofList

/-- The value at the segments; only objects are entered. -/
def lookup : List String → Fields → Option Json
  | [], _ => none
  | [last], fields => Fields.get? last fields
  | segment :: rest, fields =>
      match Fields.get? segment fields with
      | some (.object inner) => lookup rest inner
      | _ => none

/-- A text is read as it stands and any other value as compact JSON. -/
def valueText : Json → Option String
  | .null => none
  | .string s => some s
  | v => some v.compact

def get (table : VariableTable) (path : String) : Option String :=
  (lookup (segments path) table.fields).bind valueText

def contains (table : VariableTable) (path : String) : Bool := (table.get path).isSome

/-- The fields of a value that is to be entered; anything but an object gives way to a new one. -/
def innerFields : Option Json → Fields
  | some (.object inner) => inner
  | _ => []

/-- Writes a text at the segments; what is no object on the way is replaced by one. -/
def assign (value : String) : List String → Fields → Fields
  | [], fields => fields
  | [last], fields => Fields.insert last (.string value) fields
  | segment :: rest, fields =>
      Fields.insert segment
        (.object (assign value rest (innerFields (Fields.get? segment fields)))) fields

def set (table : VariableTable) (path value : String) : VariableTable :=
  ⟨assign value (segments path) table.fields⟩

def isEmpty (table : VariableTable) : Bool := table.fields.isEmpty

/-- The number of fields at the top. -/
def size (table : VariableTable) : Nat := table.fields.length

def ofJson? : Json → Option VariableTable
  | .object fields => some ⟨fields⟩
  | _ => none

def toJson (table : VariableTable) : Json := .object table.fields

end VariableTable

/-- The two tables of a run. -/
structure Variables where
  memory : VariableTable
  store : VariableTable
deriving Repr, Inhabited

namespace Variables

/-- Nothing in memory, and the store as it was left. -/
def withStore (store : VariableTable) : Variables := ⟨.empty, store⟩

def table (vars : Variables) : Scope → VariableTable
  | .store => vars.store
  | .memory => vars.memory

def get (vars : Variables) (scope : Scope) (path : String) : Option String :=
  (vars.table scope).get path

def isDefined (vars : Variables) (scope : Scope) (path : String) : Bool :=
  (vars.table scope).contains path

def set (vars : Variables) (scope : Scope) (path value : String) : Variables :=
  match scope with
  | .store => { vars with store := vars.store.set path value }
  | .memory => { vars with memory := vars.memory.set path value }

/-- The value of a reference, or the default when it has none. -/
def resolve (vars : Variables) (ref : VariableRef) (default : Option String) : Option String :=
  match vars.get ref.scope ref.name with
  | some value => some value
  | none => default

end Variables
end Scaffold
