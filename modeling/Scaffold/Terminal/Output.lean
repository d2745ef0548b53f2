import Scaffold.Document.Basic
import Scaffold.Terminal.Style

/-!
# Output on the terminal

Every line is of one kind.  Its kind decides the mark in front of it, its color, and whether it is
written when the program is to be quiet.
-/

namespace Scaffold

inductive LineKind where
  /-- A plain message. -/
  | message
  /-- What the program was asked for. -/
  | data
  | success
  | error
  | warning
  | info
  | header
deriving DecidableEq, Repr

namespace LineKind

/-- The mark and the color of the kinds that have one. -/
def mark? : LineKind → Option (String × Color)
  | .success => some ("✓", .green)
  | .error => some ("✗", .red)
  | .warning => some ("⚠", .yellow)
  | .info => some ("ℹ", .blue)
  | _ => none

/-- Data and errors are written even when the program is quiet. -/
def isLoud : LineKind → Bool
  | .data => true
  | .error => true
  | _ => false

/-- The kind of line for a message of that severity. -/
def ofLevel : LogLevel → LineKind
  | .error => .error
  | .warn => .warning
  | .info => .info
  | .success => .success
  | .log => .message

end LineKind

/-- How lines are written. -/
structure Output where
  quiet : Bool
  colored : Bool
deriving DecidableEq, Repr

namespace Output

/-- The line without the end of it. -/
def lineText (output : Output) (kind : LineKind) (text : String) : String :=
  match kind.mark? with
  | some (mark, color) =>
      if output.colored then Style.strong color mark ++ " " ++ Style.colored color text
      else mark ++ " " ++ text
  | none =>
      if kind == .header && output.colored then Style.strong .cyan text else text

/-- What is written for a line. -/
def line (output : Output) (kind : LineKind) (text : String) : String :=
  if output.quiet && !kind.isLoud then "" else output.lineText kind text ++ "\n"

end Output
end Scaffold
