import Scaffold.Path

/-!
# Placeholders

A placeholder names one of the directories that a project keeps its sources in.  It is found in any
letter case, and the rightmost one of a path makes all that stands before it void.
-/

namespace Scaffold

inductive Placeholder where
  | src
  | components
  | hooks
deriving DecidableEq, Repr

namespace Placeholder

def all : List Placeholder := [.src, .components, .hooks]

def token : Placeholder → String
  | .src => "%SRC%"
  | .components => "%COMPONENTS%"
  | .hooks => "%HOOKS%"

/-- The directory it stands for, in a project with a directory `src` or without one. -/
def directory (hasSrc : Bool) : Placeholder → Path
  | .src => if hasSrc then ⟨"src"⟩ else .empty
  | .components => (if hasSrc then ⟨"src"⟩ else Path.empty).push "components"
  | .hooks => (if hasSrc then ⟨"src"⟩ else Path.empty).push "hooks"

/-- The text behind the last occurrence of a token, in any letter case. -/
def afterLast? (token : List Char) : List Char → Option (List Char)
  | [] => none
  | c :: rest =>
      match afterLast? token rest with
      | some behind => some behind
      | none =>
          if token.isPrefixOf ((c :: rest).map Char.toUpper) then
            some ((c :: rest).drop token.length)
          else none

/-- Of two placeholders with the text behind each, the one further to the right. -/
def later : Option (Placeholder × List Char) → Option (Placeholder × List Char) →
    Option (Placeholder × List Char)
  | none, found => found
  | found, none => found
  | some a, some b => if b.2.length ≤ a.2.length then some b else some a

/-- The rightmost placeholder and the text behind it. -/
def rightmost? (cs : List Char) : Option (Placeholder × List Char) :=
  all.foldl (fun found p => later found ((afterLast? p.token.toList cs).map (p, ·))) none

end Placeholder
end Scaffold
