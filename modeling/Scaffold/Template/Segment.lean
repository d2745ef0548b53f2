import Scaffold.Variables.Reference

/-!
# Segments of templates

A segment is a reference to a variable, a directive that asks for a name, or a literal text.  The
directive is `<-ask->`, with a default and a variable behind bars: `<-ask | index.ts | <#file>->`.
-/

namespace Scaffold

structure AskDirective where
  default : Option String
  ref : Option VariableRef
deriving DecidableEq, Repr

namespace AskDirective

/-- A default has no angle brackets; an empty one is none. -/
def readDefault (cs : List Char) : Option (Option String) :=
  if cs.any (fun c => c == '<' || c == '>') then none
  else if cs.isEmpty then some none
  else some (some (String.ofList cs))

/-- Reads the parts behind the word `ask`. -/
def ofParts : List (List Char) → Option AskDirective
  | [] => some ⟨none, none⟩
  | [only] =>
      match VariableRef.parseChars only with
      | some ref => some ⟨none, some ref⟩
      | none => (readDefault only).map fun default => ⟨default, none⟩
  | [default, ref] =>
      match readDefault default, VariableRef.parseChars ref with
      | some default, some ref => some ⟨default, some ref⟩
      | _, _ => none
  | _ => none

def parseChars (cs : List Char) : Option AskDirective :=
  match Text.between ['<', '-'] ['-', '>'] (Text.trimChars cs) with
  | none => none
  | some inner =>
      match (Text.pieces (· == '|') inner).map Text.trimChars with
      | word :: parts => if word = ['a', 's', 'k'] then ofParts parts else none
      | [] => none

def parse (text : String) : Option AskDirective := parseChars text.toList

/-- The directive as it is written in a document. -/
def text (ask : AskDirective) : String :=
  let part : Option String → String := fun s => (s.map (" | " ++ ·)).getD ""
  "<-ask" ++ part ask.default ++ part (ask.ref.map VariableRef.text) ++ "->"

end AskDirective

inductive Segment where
  | literal (text : String)
  | reference (ref : VariableRef)
  | ask (directive : AskDirective)
deriving DecidableEq, Repr

namespace Segment

def parse (text : String) : Segment :=
  match VariableRef.parse text with
  | some ref => .reference ref
  | none =>
      match AskDirective.parse text with
      | some directive => .ask directive
      | none => .literal text

end Segment
end Scaffold
