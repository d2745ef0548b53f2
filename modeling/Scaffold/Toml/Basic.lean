import Scaffold.Number.Plain

/-!
# TOML values

A document is a table.  While it is read, a table remembers how it came to be, because that decides
whether it may be named again.
-/

namespace Scaffold

inductive Toml where
  | string (s : String)
  | integer (n : Int)
  | real (x : Binary64)
  | bool (b : Bool)
  /-- A date, a time or both, in normal form. -/
  | datetime (text : String)
  | array (items : List Toml)
  | table (entries : List (String × Toml))
deriving Repr, Inhabited

namespace Toml

/-- How a table came to be. -/
inductive Origin where
  /-- On the way to a table named by a header. -/
  | passing
  | header
  /-- By a dotted key. -/
  | dotted
deriving DecidableEq, Repr

/-- What a key stands for while a document is read. -/
inductive Draft where
  | leaf (value : Toml)
  | table (origin : Origin) (entries : List (String × Draft))
  /-- The tables of an array, the last one first. -/
  | tables (last : List (String × Draft)) (before : List (List (String × Draft)))
deriving Repr, Inhabited

abbrev Entries := List (String × Draft)

namespace Entries

def get? (key : String) (entries : Entries) : Option Draft := entries.lookup key

/-- A present key keeps its place. -/
def put (key : String) (draft : Draft) : Entries → Entries
  | [] => [(key, draft)]
  | (k, d) :: rest => if k = key then (k, draft) :: rest else (k, d) :: put key draft rest

end Entries

/-- Changes the table that the keys lead to; tables on the way that are missing are created, and of
an array of tables the last one is meant. -/
def Entries.inside (change : Entries → Option Entries) : List String → Entries → Option Entries
  | [], entries => change entries
  | key :: rest, entries =>
      match Entries.get? key entries with
      | none => (inside change rest []).map fun inner => entries.put key (.table .passing inner)
      | some (.table origin inner) =>
          (inside change rest inner).map fun inner => entries.put key (.table origin inner)
      | some (.tables last before) =>
          (inside change rest last).map fun last => entries.put key (.tables last before)
      | some (.leaf _) => none

/-- Gives a dotted key its value.  It may lead through tables that no header has named. -/
def Entries.assign (value : Toml) : List String → Entries → Option Entries
  | [], _ => none
  | [key], entries =>
      if (Entries.get? key entries).isSome then none else some (entries.put key (.leaf value))
  | key :: rest, entries =>
      match Entries.get? key entries with
      | none => (assign value rest []).map fun inner => entries.put key (.table .dotted inner)
      | some (.table .header _) => none
      | some (.table origin inner) =>
          (assign value rest inner).map fun inner => entries.put key (.table origin inner)
      | some _ => none

/-- Names a table by a header; a table is named once. -/
def Entries.declare (key : String) (entries : Entries) : Option Entries :=
  match Entries.get? key entries with
  | none => some (entries.put key (.table .header []))
  | some (.table .passing inner) => some (entries.put key (.table .header inner))
  | some _ => none

/-- Adds a table to an array of tables. -/
def Entries.declareItem (key : String) (entries : Entries) : Option Entries :=
  match Entries.get? key entries with
  | none => some (entries.put key (.tables [] []))
  | some (.tables last before) => some (entries.put key (.tables [] (last :: before)))
  | some _ => none

mutual
/-- The value that a draft has come to. -/
def Draft.value : Draft → Toml
  | .leaf v => v
  | .table _ entries => .table (valueAll entries)
  | .tables last before => .array (valueItems before ++ [.table (valueAll last)])

def Draft.valueAll : List (String × Draft) → List (String × Toml)
  | [] => []
  | (key, d) :: rest => (key, Draft.value d) :: Draft.valueAll rest

/-- The tables in front of the last one, in order. -/
def Draft.valueItems : List (List (String × Draft)) → List Toml
  | [] => []
  | entries :: rest => Draft.valueItems rest ++ [.table (Draft.valueAll entries)]
end

end Toml
end Scaffold
