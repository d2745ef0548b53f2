import Scaffold.Text.Blank

/-!
# Paths

A path keeps the text it was written with.  Its components are what the text means: repeated
slashes, a slash at the end and inner `.` pieces add nothing.
-/

namespace Scaffold

structure Path where
  text : String
deriving DecidableEq, Repr, Inhabited

namespace Path

inductive Component where
  | root
  /-- A `.` at the start of a relative path. -/
  | current
  /-- The piece `..`. -/
  | up
  | name (s : String)
deriving DecidableEq, Repr

def empty : Path := ⟨""⟩

def chars (p : Path) : List Char := p.text.toList

def isSlash (c : Char) : Bool := c == '/'

def isAbsolute (p : Path) : Bool :=
  match p.chars with
  | '/' :: _ => true
  | _ => false

def isEmpty (p : Path) : Bool := p.text == ""

/-- The pieces between the slashes. -/
def pieces (p : Path) : List String := (Text.pieces isSlash p.chars).map String.ofList

def Component.ofPiece (piece : String) : Option Component :=
  if piece = "" ∨ piece = "." then none
  else if piece = ".." then some .up
  else some (.name piece)

def components (p : Path) : List Component :=
  let inner := p.pieces.filterMap Component.ofPiece
  if p.isAbsolute then .root :: inner
  else
    match p.pieces with
    | "." :: _ => .current :: inner
    | _ => inner

def Component.text : Component → String
  | .root => "/"
  | .current => "."
  | .up => ".."
  | .name s => s

/-- One path after another; an absolute one replaces what stands before it. -/
def join (p q : Path) : Path :=
  if q.isAbsolute then q
  else
    match p.chars.getLast? with
    | none => q
    | some '/' => ⟨p.text ++ q.text⟩
    | some _ => ⟨p.text ++ "/" ++ q.text⟩

def push (p : Path) (piece : String) : Path := p.join ⟨piece⟩

def ofComponents (components : List Component) : Path :=
  components.foldl (fun p c => p.push c.text) empty

/-- The components without a leading `.`: equal for all spellings of one place. -/
def key (p : Path) : List Component := p.components.filter (· != .current)

/-- The length of what the first component takes up when it is a slash or a `.`. -/
def bodyStart (p : Path) : Nat :=
  match p.components with
  | .root :: _ => 1
  | .current :: _ => 1
  | _ => 0

/-- Drops pieces without meaning from the end of the reversed text, down to the given length. -/
def trimPieces (start : Nat) (reversed : List Char) : List Char :=
  match reversed with
  | '/' :: rest => if start < reversed.length then trimPieces start rest else reversed
  | '.' :: '/' :: rest =>
      if start < rest.length + 1 then trimPieces start ('/' :: rest)
      else if start < reversed.length then '/' :: rest
      else reversed
  | _ => reversed
termination_by reversed.length

/-- The path without its last component; a path of no components, or of the root, has none. -/
def parent (p : Path) : Option Path :=
  match p.components.getLast? with
  | none => none
  | some .root => none
  | some .current => some empty
  | some _ =>
      let start := p.bodyStart
      let trimmed := trimPieces start p.chars.reverse
      let body := trimmed.take (trimmed.length - start)
      let before := body.dropWhile (!isSlash ·) ++ trimmed.drop (trimmed.length - start)
      some ⟨String.ofList (trimPieces start before).reverse⟩

def parentD (p : Path) : Path := p.parent.getD empty

end Path
end Scaffold
