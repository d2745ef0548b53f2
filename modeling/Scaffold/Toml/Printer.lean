import Scaffold.Json.Printer
import Scaffold.Toml.Basic

/-!
# Writing TOML strings

A string is written in the plainest spelling that needs no escapes: between double quotes, between
single quotes, or over several lines between three of either.  Escapes are the last resort.
-/

namespace Scaffold
namespace Toml

/-- The length of the longest run of the character. -/
def longestRun (c : Char) (cs : List Char) : Nat :=
  (cs.foldl
    (fun (run, longest) d =>
      let run := if d = c then run + 1 else 0
      (run, max longest run))
    (0, 0)).2

/-- Characters that have to be escaped in every spelling. -/
def needsCode (c : Char) : Bool :=
  (c.toNat < 32 && c != '\t' && c != '\n') || c.toNat == 127

inductive Spelling where
  | basic
  | literal
  | basicLines
  | literalLines
deriving DecidableEq, Repr

/-- The first spelling that suits the text. -/
def spelling (cs : List Char) : Spelling :=
  let codes := cs.any needsCode
  let lines := cs.contains '\n'
  let backslash := cs.contains '\\'
  let doubles := longestRun '"' cs
  let singles := longestRun '\'' cs
  if !codes && !backslash && doubles = 0 && !lines then .basic
  else if !codes && singles = 0 && !lines then .literal
  else if !codes && !backslash && doubles ≤ 2 then .basicLines
  else if !codes && singles ≤ 2 then .literalLines
  else if lines then .basicLines
  else .basic

def codeText (c : Char) : List Char :=
  let n := c.toNat
  ['\\', 'u', '0', '0', (Json.hexDigit (n / 16)).toUpper, (Json.hexDigit (n % 16)).toUpper]

/-- The text with escapes.  Over several lines, line ends and up to two quotes in a row stay. -/
def escapeAll (lines : Bool) : Nat → List Char → List Char
  | _, [] => []
  | quotes, c :: rest =>
      if c = '"' then
        if quotes < (if lines then 2 else 0) then '"' :: escapeAll lines (quotes + 1) rest
        else '\\' :: '"' :: escapeAll lines 0 rest
      else
        let written :=
          if c = '\\' then ['\\', '\\']
          else if c = '\n' then (if lines then ['\n'] else ['\\', 'n'])
          else if c = '\t' then ['\\', 't']
          else if c = '\r' then ['\\', 'r']
          else if c.toNat = 8 then ['\\', 'b']
          else if c.toNat = 12 then ['\\', 'f']
          else if needsCode c then codeText c
          else [c]
        written ++ escapeAll lines 0 rest

/-- The string as it is written in a document. -/
def stringText (s : String) : String :=
  let cs := s.toList
  let first := if cs.contains '\n' then ['\n'] else []
  String.ofList <|
    match spelling cs with
    | .basic => '"' :: escapeAll false 0 cs ++ ['"']
    | .literal => '\'' :: cs ++ ['\'']
    | .basicLines =>
        ['"', '"', '"'] ++ first ++ escapeAll true 0 cs ++ ['"', '"', '"']
    | .literalLines => ['\'', '\'', '\''] ++ first ++ cs ++ ['\'', '\'', '\'']

end Toml
end Scaffold
