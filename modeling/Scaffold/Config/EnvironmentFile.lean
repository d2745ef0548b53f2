import Scaffold.Config.Environment
import Scaffold.Files.Disk
import Scaffold.Text.Category
import Scaffold.Text.Property

/-!
# Environment files

A file of lines `NAME=value` gives values to variables that have none.  Values may be quoted, and a
dollar sign in front of a name stands for the value of that variable.  The first line that cannot be
read ends the file.
-/

namespace Scaffold
namespace EnvironmentFile

/-- How the end of a piece of text leaves the reading of a value. -/
inductive LineState where
  | complete
  | blank
  | escape
  | strong
  | strongEscape
  | weak
  | weakEscape
  /-- A comment has started. -/
  | comment
deriving DecidableEq, Repr

def opening (c : Char) : LineState :=
  if c = '\\' then .escape
  else if c = '"' then .weak
  else if c = '\'' then .strong
  else .complete

def LineState.next (c : Char) : LineState → LineState
  | .blank => if c = '#' then .comment else opening c
  | .escape => .complete
  | .complete =>
      if Text.isBlank c && c != '\n' && c != '\r' then .blank else opening c
  | .weak => if c = '\\' then .weakEscape else if c = '"' then .complete else .weak
  | .weakEscape => .weak
  | .strong => if c = '\\' then .strongEscape else if c = '\'' then .complete else .strong
  | .strongEscape => .strong
  | .comment => .comment

/-- The state at the end of a line and what stands in front of a comment. -/
def scanLine (state : LineState) : List Char → LineState × List Char
  | [] => (state, [])
  | c :: rest =>
      match state.next c with
      | .comment => (.comment, [])
      | next =>
          let (final, kept) := scanLine next rest
          (final, c :: kept)

def withoutLineEnd (cs : List Char) : List Char :=
  match cs.reverse with
  | '\n' :: '\r' :: before => before.reverse
  | '\n' :: before => before.reverse
  | _ => cs

/-- The lines of a text with their ends. -/
def physicalLines : List Char → List (List Char)
  | [] => []
  | c :: rest =>
      if c = '\n' then [c] :: physicalLines rest
      else
        match physicalLines rest with
        | [] => [[c]]
        | line :: others => (c :: line) :: others

/-- Joins the lines over which a quoted value runs.  A value that is still open at the end makes an
unreadable line. -/
def logicalLines (state : LineState) (done : List Char) :
    List (List Char) → List (Option (List Char))
  | [] => if state = .complete then [] else [none]
  | line :: rest =>
      let buffer := done ++ line
      if (Text.trimLeft buffer).head? = some '#' then some [] :: logicalLines .complete [] rest
      else
        match scanLine state line with
        | (.complete, _) => some (withoutLineEnd buffer) :: logicalLines .complete [] rest
        | (.comment, kept) => some (done ++ kept) :: logicalLines .complete [] rest
        | (state, _) => logicalLines state buffer rest

def isNameStart (c : Char) : Bool := c.isAlpha || c == '_'

def isNameChar (c : Char) : Bool := c.isAlphanum || c == '_' || c == '.'

/-- The name at the start and the text behind it. -/
def readName : List Char → Option (String × List Char)
  | [] => none
  | c :: rest =>
      if isNameStart c then
        some (String.ofList (c :: rest.takeWhile isNameChar), rest.dropWhile isNameChar)
      else none

def behindEquals (cs : List Char) : Option (List Char) :=
  match Text.trimLeft cs with
  | '=' :: rest => some rest
  | _ => none

inductive Substitution where
  | none
  | plain
  | braced
deriving DecidableEq, Repr

/-- What is known while a value is read. -/
structure ValueState where
  strong : Bool
  weak : Bool
  escaped : Bool
  ending : Bool
  substitution : Substitution
  name : List Char
  output : List Char

open Text in
def isNameLetter (c : Char) : Bool :=
  Property.alphabetic.mem c ||
    [Category.decimalNumber, Category.letterNumber, Category.otherNumber].any
      fun category => category.mem c

/-- Puts the value of the named variable behind the output. -/
def ValueState.substitute (known : String → String) (s : ValueState) : ValueState :=
  { s with output := s.output ++ (known (String.ofList s.name)).toList, name := [] }

def ValueState.push (c : Char) (s : ValueState) : ValueState := { s with output := s.output ++ [c] }

/-- Takes one more character of a value; nothing comes of one that cannot stand there, and a comment
ends the value. -/
def ValueState.take (known : String → String) (c : Char) (s : ValueState) :
    Option (ValueState × Bool) :=
  if s.ending then
    if c = ' ' ∨ c = '\t' then some (s, true)
    else if c = '#' then some (s, false)
    else none
  else if s.escaped then
    let s := { s with escaped := false }
    if c = '\\' ∨ c = '\'' ∨ c = '"' ∨ c = '$' ∨ c = ' ' then some (s.push c, true)
    else if c = 'n' then some (s.push '\n', true)
    else none
  else if s.strong then
    if c = '\'' then some ({ s with strong := false }, true) else some (s.push c, true)
  else
    match s.substitution with
    | .plain =>
        if isNameLetter c then some ({ s with name := s.name ++ [c] }, true)
        else if c = '{' ∧ s.name.isEmpty then some ({ s with substitution := .braced }, true)
        else
          let s := s.substitute known
          if c = '$' then some (s, true)
          else some ({ s with substitution := .none }.push c, true)
    | .braced =>
        if isNameLetter c then some ({ s with name := s.name ++ [c] }, true)
        else if c = '}' then some ({ s.substitute known with substitution := .none }, true)
        else some ({ s with name := s.name ++ [c] }, true)
    | .none =>
        if c = '$' then some ({ s with substitution := .plain }, true)
        else if s.weak then
          if c = '"' then some ({ s with weak := false }, true)
          else if c = '\\' then some ({ s with escaped := true }, true)
          else some (s.push c, true)
        else if c = '\'' then some ({ s with strong := true }, true)
        else if c = '"' then some ({ s with weak := true }, true)
        else if c = '\\' then some ({ s with escaped := true }, true)
        else if c = ' ' ∨ c = '\t' then some ({ s with ending := true }, true)
        else some (s.push c, true)

def readValue (known : String → String) (s : ValueState) : List Char → Option String
  | [] =>
      if s.substitution = .braced ∨ s.strong ∨ s.weak then none
      else some (String.ofList (s.substitute known).output)
  | c :: rest =>
      match s.take known c with
      | none => none
      | some (s, true) => readValue known s rest
      | some (s, false) => readValue known s []

def startOfValue : ValueState := ⟨false, false, false, false, .none, [], []⟩

/-- The name of a line and the text of its value.  A line may start with the word `export`. -/
def readAssignment (cs : List Char) : Option (String × List Char) := do
  let (name, rest) ← readName cs
  match behindEquals rest with
  | some value => return (name, Text.trimLeft value)
  | none =>
      if name ≠ "export" then none
      let (name, rest) ← readName (Text.trimLeft rest)
      return (name, Text.trimLeft (← behindEquals rest))

/-- The variable that a line sets, if it sets one; nothing if the line cannot be read. -/
def readLine (known : String → String) (line : List Char) : Option (Option (String × String)) :=
  match Text.trimChars line with
  | [] => some none
  | '#' :: _ => some none
  | cs => do
      let (name, value) ← readAssignment cs
      match value with
      | [] => return some (name, "")
      | '#' :: _ => return some (name, "")
      | _ => return some (name, ← readValue known startOfValue value)

/-- The value of a variable of the environment, or of one that the file has set before. -/
def lookUp (env : Environment) (set : List (String × String)) (name : String) : String :=
  if name = "" then "" else ((env.get? name) <|> set.lookup name).getD ""

/-- Gives values to the variables that the lines set. -/
def applyLines (env : Environment) (set : List (String × String)) :
    List (Option (List Char)) → Environment
  | [] => env
  | none :: _ => env
  | some line :: rest =>
      match readLine (lookUp env set) line with
      | none => env
      | some none => applyLines env set rest
      | some (some (name, value)) =>
          applyLines (env.withDefault name value) ((name, value) :: set) rest

/-- The environment with the variables that the text sets. -/
def apply (env : Environment) (text : String) : Environment :=
  let cs :=
    match text.toList with
    | '\uFEFF' :: rest => rest
    | cs => cs
  applyLines env [] (logicalLines .complete [] (physicalLines cs))

/-- The text of the nearest file `.env` in a directory or above it. -/
def find? (disk : Disk) : Nat → Location → Option String
  | 0, _ => none
  | bound + 1, location =>
      match disk.entry? (location ++ [".env"]) with
      | some (.file content) => some content
      | _ => if location.isEmpty then none else find? disk bound location.dropLast

/-- The environment with what the nearest environment file adds to it. -/
def load (disk : Disk) (env : Environment) : Environment :=
  match find? disk (disk.current.length + 1) disk.current with
  | some text => apply env text
  | none => env

end EnvironmentFile
end Scaffold
