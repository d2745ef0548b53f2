import Scaffold.Run.Service
import Scaffold.Template.PathTemplate

/-!
# Destinations of files

The name of a file is a template.  Its segments are put one behind the other: references give way to
their values and directives to the names that the user enters.  A file that is in the way is
overwritten, kept, or left alone for another name in the same directory.
-/

namespace Scaffold

inductive Destination where
  | path (p : Path)
  /-- The user would not touch the file that is there. -/
  | skip
deriving DecidableEq, Repr

namespace Destination

variable {ω : Type}

/-- The path with the naming pieces of the text behind it. -/
def addPieces (path : Path) (text : String) : Path :=
  (PathTemplate.namingPieces text.toList).foldl Path.push path

/-- An empty answer stands for the default. -/
def enteredName (default : Option String) (raw : String) : String :=
  let name := Text.trim raw
  if name = "" then default.getD "" else name

/-- Asks for a name until one is neither empty nor a problem.  Each prompt takes an answer, so that
there are no more prompts than answers, and one. -/
def askName (message : String) (default : Option String)
    (problem? : RunState ω → String → Option String) : Nat → Run ω String
  | 0 => throw (.service .cancelled)
  | n + 1 => do
      let name := enteredName default (← Service.text message default)
      if name = "" then
        Service.report .warn "File name cannot be empty"
        askName message default problem? n
      else
        match problem? (← get) name with
        | none => return name
        | some problem =>
            Service.report .warn problem
            askName message default problem? n

/-- One prompt more than there are answers. -/
def promptName (message : String) (default : Option String)
    (problem? : RunState ω → String → Option String) : Run ω String := do
  askName message default problem? ((← get).prompter.remaining + 1)

/-- The path with what a directive asks for behind it: the value of its variable, if that is not
empty, or else a name that is entered. -/
def addAsked (path : Path) (ask : AskDirective) (wantsFile : Bool) : Run ω Path := do
  let vars := (← get).vars
  match (ask.ref.bind fun ref => vars.resolve ref none).filter (· != "") with
  | some value => return addPieces path value
  | none =>
      let message := if wantsFile then "Enter file name." else "Enter folder name."
      return addPieces path (← promptName message ask.default fun _ _ => none)

/-- The path with a segment behind it.  A reference without value stays as it is written. -/
def addSegment (path : Path) (wantsFile : Bool) : Segment → Run ω Path
  | .literal text => return addPieces path text
  | .ask directive => addAsked path directive wantsFile
  | .reference ref => do
      match (← get).vars.resolve ref none with
      | some value =>
          match AskDirective.parse value with
          | some directive => addAsked path directive wantsFile
          | none => return addPieces path value
      | none =>
          Service.report .warn s!"value not found for variable: '{ref.name}'"
          return addPieces path ref.text

/-- The path with the segments behind it; the last one names a file if one is wanted. -/
def addSegments (wantsFile : Bool) : Path → List Segment → Run ω Path
  | front, [] => return front
  | front, [last] => addSegment front wantsFile last
  | front, segment :: rest => do
      let longer ← addSegment front false segment
      addSegments wantsFile longer rest

/-- Where the segments start. -/
def origin [FileTree ω] (files : ω) (template : PathTemplate) : Path :=
  if template.absolute then ⟨"/"⟩
  else
    match template.anchor with
    | some anchor => anchor.directory (FileTree.isDirectory files ⟨"src"⟩)
    | none => .empty

def build [FileTree ω] (template : PathTemplate) (ignoreExisting : Bool) : Run ω Path := do
  addSegments (!ignoreExisting) (origin (← get).files template) template.segments

/-- What may be done about a file that is in the way. -/
def choices : List (String × String) :=
  [("rename", "Rename"), ("overwrite", "Yes"), ("skip", "No")]

/-- Asks what to do about the file that is in the way. -/
def arbitrate [FileTree ω] (path : Path) : Run ω Destination := do
  let message :=
    "File '" ++ path.text ++ "' already exists. Do you want to overwrite it?"
  match ← Service.select message choices none with
  | "overwrite" => return .path path
  | "rename" =>
      let parent := path.parentD
      let taken? (s : RunState ω) (name : String) : Option String :=
        let target := parent.push name
        if FileTree.occupied s.files target then
          some ("'" ++ target.text ++ "' already exists, please enter another file name")
        else none
      return .path (parent.push (← promptName "Enter new file name" none taken?))
  | _ => return .skip

/-- The destination of a name under the base.  What is there already may be ignored. -/
def resolve [FileTree ω] (base : Option Path) (name : String) (ignoreExisting : Bool) :
    Run ω Destination := do
  let path ← build (PathTemplate.parse base name) ignoreExisting
  if ignoreExisting || !FileTree.occupied (← get).files path then return .path path
  arbitrate path

end Destination
end Scaffold
