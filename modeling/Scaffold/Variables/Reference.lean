import Scaffold.Text.Blank

/-!
# References to variables

A variable lives in one of two tables.  The store outlives a run and has the sigil `@`; the memory
lasts for one run and has the sigil `#`.  A reference is a sigil and a name between angle brackets.
-/

namespace Scaffold

inductive Scope where
  | store
  | memory
deriving DecidableEq, Repr

namespace Scope

def ofSigil? : Char → Option Scope
  | '@' => some .store
  | '#' => some .memory
  | _ => none

def sigil : Scope → Char
  | .store => '@'
  | .memory => '#'

def name : Scope → String
  | .store => "store"
  | .memory => "memory"

@[simp] theorem ofSigil?_sigil (s : Scope) : ofSigil? s.sigil = some s := by
  cases s <;> rfl

end Scope

structure VariableRef where
  scope : Scope
  name : String
deriving DecidableEq, Repr

namespace VariableRef

/-- Letters and digits of ASCII, points, underscores and hyphens. -/
def isNameChar (c : Char) : Bool := c.isAlphanum || c == '.' || c == '_' || c == '-'

def isName (name : List Char) : Bool := !name.isEmpty && name.all isNameChar

/-- Reads `<`, a sigil, a name and `>`, with blanks around each of the parts. -/
def parseChars (cs : List Char) : Option VariableRef :=
  match Text.between ['<'] ['>'] (Text.trimChars cs) with
  | none => none
  | some inner =>
      match Text.trimChars inner with
      | [] => none
      | sigil :: rest =>
          match Scope.ofSigil? sigil with
          | none => none
          | some scope =>
              let name := Text.trimChars rest
              if isName name then some ⟨scope, String.ofList name⟩ else none

def parse (text : String) : Option VariableRef := parseChars text.toList

/-- The variable in which a job of that id leaves its mark; an id without a sigil means memory. -/
def ofJobId (id : String) : VariableRef :=
  match id.toList with
  | [] => ⟨.memory, id⟩
  | c :: rest =>
      match Scope.ofSigil? c with
      | some scope => ⟨scope, String.ofList rest⟩
      | none => ⟨.memory, id⟩

def chars (r : VariableRef) : List Char := '<' :: r.scope.sigil :: r.name.toList ++ ['>']

/-- The reference as it is written in a document. -/
def text (r : VariableRef) : String := String.ofList r.chars

end VariableRef
end Scaffold
