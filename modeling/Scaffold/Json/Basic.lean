import Scaffold.Number.Binary64

/-!
# JSON values

Objects keep the order in which their keys first appeared; a key set again keeps its place and takes
the new value.
-/

namespace Scaffold

/-- A whole number of at most 64 bits keeps all its digits; any other number is binary. -/
inductive Numeral where
  | whole (n : Int)
  | real (x : Binary64)
deriving DecidableEq, Repr

inductive Json where
  | null
  | bool (b : Bool)
  | number (n : Numeral)
  | string (s : String)
  | array (items : List Json)
  | object (fields : List (String × Json))
deriving Repr, Inhabited

/-- The fields of an object, in order. -/
abbrev Fields := List (String × Json)

namespace Fields

def get? (key : String) : Fields → Option Json
  | [] => none
  | (k, v) :: rest => if k = key then some v else get? key rest

/-- A present key keeps its place and takes the new value; a new key comes last. -/
def insert (key : String) (value : Json) : Fields → Fields
  | [] => [(key, value)]
  | (k, v) :: rest => if k = key then (k, value) :: rest else (k, v) :: insert key value rest

def without (keys : List String) (fields : Fields) : Fields :=
  fields.filter fun field => !keys.contains field.1

theorem sizeOf_get?_lt {key : String} {fields : Fields} {v : Json}
    (h : get? key fields = some v) : sizeOf v < sizeOf fields := by
  induction fields with
  | nil => simp [get?] at h
  | cons field rest ih =>
      obtain ⟨k, w⟩ := field
      unfold get? at h
      split at h
      · obtain rfl := Option.some.inj h
        simp
        omega
      · have := ih h
        simp
        omega

@[simp] theorem get?_insert_self (key : String) (value : Json) (fields : Fields) :
    get? key (insert key value fields) = some value := by
  induction fields with
  | nil => simp [insert, get?]
  | cons field rest ih =>
      obtain ⟨k, v⟩ := field
      by_cases h : k = key <;> simp [insert, get?, h, ih]

theorem get?_insert_of_ne {key other : String} (h : other ≠ key) (value : Json)
    (fields : Fields) : get? other (insert key value fields) = get? other fields := by
  induction fields with
  | nil => simp [insert, get?, h.symm]
  | cons field rest ih =>
      obtain ⟨k, v⟩ := field
      by_cases hk : k = key
      · subst hk
        simp [insert, get?, h.symm]
      · simp [insert, get?, hk, ih]

end Fields

namespace Json

/-- The field of that name, when the value is an object that has it. -/
def field? (key : String) : Json → Option Json
  | .object fields => Fields.get? key fields
  | _ => none

def text? : Json → Option String
  | .string s => some s
  | _ => none

/-- What a value is, in a word. -/
def kindName : Json → String
  | .null => "null"
  | .bool _ => "boolean"
  | .number _ => "number"
  | .string _ => "string"
  | .array _ => "array"
  | .object _ => "object"

end Json
end Scaffold
