import Scaffold.Template.Placeholder
import Scaffold.Template.Segment

/-!
# Path templates

The name of a file is cut at slashes and backslashes into segments.  What stands before a
placeholder is dropped; without one, a slash at the front makes the path absolute.
-/

namespace Scaffold

structure PathTemplate where
  anchor : Option Placeholder
  absolute : Bool
  segments : List Segment
deriving DecidableEq, Repr

namespace PathTemplate

def isSeparator (c : Char) : Bool := c == '/' || c == '\\'

/-- The pieces that name something: neither empty nor a single point. -/
def namingPieces (cs : List Char) : List String :=
  ((Text.pieces isSeparator cs).filter fun piece => !piece.isEmpty && piece != ['.']).map
    String.ofList

/-- The name that is parsed: a blank one asks for a name. -/
def effectiveName (name : String) : String := if Text.trim name = "" then "<-ask->" else name

/-- The name behind the base, when there is one that is not empty. -/
def under (base : Option Path) (name : String) : String :=
  match base with
  | some path => if path.isEmpty then name else path.text ++ "/" ++ name
  | none => name

def parse (base : Option Path) (name : String) : PathTemplate :=
  let joined := (under base (effectiveName name)).toList
  match Placeholder.rightmost? joined with
  | some (placeholder, behind) =>
      { anchor := some placeholder
        absolute := false
        segments := (namingPieces behind).map Segment.parse }
  | none =>
      { anchor := none
        absolute := joined.head? == some '/'
        segments := (namingPieces joined).map Segment.parse }

end PathTemplate
end Scaffold
