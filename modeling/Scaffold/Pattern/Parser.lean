import Scaffold.Pattern.Bracket

/-!
# Reading patterns

The grammar has four levels:

    alternatives := sequence ("|" sequence)*
    sequence     := piece*
    piece        := atom ("*" | "+" | "?" | "{n}" | "{n,}" | "{n,m}" and a lazy "?")*
    atom         := character | escape | class | "." | "^" | "$" | group

Flags set inside a group hold to its end, later alternatives included.  The number that the mutual
functions take first bounds their calls; each call reads a character or goes one level down.
-/

namespace Scaffold

/-- A pattern, how deep it is nested, and whether it can match nothing but the empty text. -/
structure PatternTerm where
  pattern : Pattern
  depth : Nat
  isEmpty : Bool

namespace PatternTerm

def ofSet (members : CharSet) : PatternTerm := ⟨.set members, 0, false⟩

def ofAssertion (a : Assertion) : PatternTerm := ⟨.assertion a, 0, true⟩

def deepest (terms : List PatternTerm) : Nat := terms.foldl (fun d t => max d t.depth) 0

/-- One term after another; they come last one first. -/
def sequence (terms : List PatternTerm) : PatternTerm :=
  match terms.reverse with
  | [] => ⟨.empty, 0, true⟩
  | [t] => t
  | first :: rest =>
      ⟨rest.foldl (fun p t => .seq p t.pattern) first.pattern, 1 + deepest terms,
        terms.all isEmpty⟩

/-- One term or another; they come last one first. -/
def alternatives : List PatternTerm → PatternTerm
  | [] => ⟨.empty, 0, true⟩
  | [t] => t
  | last :: rest =>
      ⟨rest.foldl (fun p t => .alt t.pattern p) last.pattern, 1 + deepest (last :: rest),
        (last :: rest).all isEmpty⟩

/-- A term some number of times.  Of empty matches one is as good as many. -/
def loop (t : PatternTerm) (least : Nat) (most : Option Nat) (greedy : Bool) : PatternTerm :=
  let least := if t.isEmpty then min least 1 else least
  let most := if t.isEmpty then some (min (most.getD 1) 1) else most
  match least, most with
  | 0, some 0 => ⟨.empty, t.depth + 1, true⟩
  | 1, some 1 => { t with depth := t.depth + 1 }
  | _, _ => ⟨.loop t.pattern least most greedy, t.depth + 1, t.isEmpty⟩

end PatternTerm

/-- What has been read so far: the flags in force, the names of groups, and the text ahead. -/
structure PatternReading where
  flags : PatternFlags
  names : List String
  rest : List Char

namespace PatternReading

/-- An atom, or flags that were set, which cannot be repeated. -/
abbrev Piece := Option PatternTerm

def isNameStart (c : Char) : Bool := c == '_' || Text.Property.alphabetic.mem c

open Text in
def isNameChar (c : Char) : Bool :=
  isNameStart c || c == '.' || c == '[' || c == ']' ||
    [Category.decimalNumber, Category.letterNumber, Category.otherNumber].any
      fun category => category.mem c

/-- The name of a group, up to the closing angle bracket; no two groups have the same name. -/
def readName (r : PatternReading) : Except PatternFault PatternReading :=
  let name := r.rest.takeWhile (· != '>')
  match name, r.rest.dropWhile (· != '>') with
  | first :: others, _ :: behind =>
      if isNameStart first && others.all isNameChar && !r.names.contains (String.ofList name) then
        .ok { r with names := String.ofList name :: r.names, rest := behind }
      else .error .badGroupName
  | _, _ => .error .badGroupName

/-- The digits at the front, between which `verbose` patterns may have blanks. -/
def readDigits (flags : PatternFlags) (done : List Char) (cs : List Char) :
    List Char × List Char :=
  match cs with
  | [] => (done.reverse, [])
  | c :: rest =>
      if c.isDigit then readDigits flags (c :: done) (flags.skip rest)
      else (done.reverse, c :: rest)
termination_by cs.length
decreasing_by
  have := flags.length_skip_le rest
  simp only [List.length_cons]
  omega

/-- A decimal number of 32 bits with blanks around it. -/
def readCount (flags : PatternFlags) (cs : List Char) : Except PatternFault (Nat × List Char) :=
  let (found, rest) := readDigits flags [] (cs.dropWhile Text.isBlank)
  let n := found.foldl (fun n c => n * 10 + (c.toNat - 48)) 0
  if found.isEmpty ∨ powerOfTwo 32 ≤ n then .error .badCount
  else .ok (n, flags.skip (rest.dropWhile Text.isBlank))

/-- The two ends of a counted repetition, read behind the opening brace. -/
def readCounts (flags : PatternFlags) (cs : List Char) :
    Except PatternFault (Nat × Option Nat × List Char) := do
  let (least, rest) ← readCount flags (flags.skip cs)
  match rest with
  | '}' :: rest => return (least, some least, rest)
  | ',' :: rest =>
      match flags.skip rest with
      | '}' :: rest => return (least, none, rest)
      | other =>
          let (most, rest) ← readCount flags other
          match rest with
          | '}' :: rest => if least ≤ most then return (least, some most, rest)
                           else throw .badCount
          | _ => throw .badCount
  | _ => throw .badCount

/-- The last piece, repeated; a question mark turns the preference for more into one for less. -/
def repeated (r : PatternReading) (pieces : List Piece) (least : Nat) (most : Option Nat) :
    Except PatternFault (List Piece × PatternReading) :=
  match pieces with
  | some t :: others =>
      let (lazy, rest) :=
        match r.rest with
        | '?' :: rest => (true, rest)
        | rest => (false, rest)
      .ok (some (t.loop least most (lazy == r.flags.swapGreed)) :: others, { r with rest })
  | _ => .error .nothingToRepeat

/-- Takes a repetition that starts the text ahead, if one does. -/
def repetition? (r : PatternReading) (pieces : List Piece) :
    Option (Except PatternFault (List Piece × PatternReading)) :=
  match r.rest with
  | '*' :: rest => some (repeated { r with rest } pieces 0 none)
  | '+' :: rest => some (repeated { r with rest } pieces 1 none)
  | '?' :: rest => some (repeated { r with rest } pieces 0 (some 1))
  | '{' :: rest =>
      some do
        let (least, most, rest) ← readCounts r.flags rest
        repeated { r with rest := r.flags.skip rest } pieces least most
  | _ => none

def lineStart (flags : PatternFlags) : Assertion :=
  if !flags.multiLine then .textStart
  else if flags.carriageReturns then .anyLineStart else .lineStart

def lineEnd (flags : PatternFlags) : Assertion :=
  if !flags.multiLine then .textEnd
  else if flags.carriageReturns then .anyLineEnd else .lineEnd

def ofEscape (flags : PatternFlags) : PatternEscape → Except PatternFault PatternTerm
  | .character c byte => (PatternEscape.literal flags c byte).map .ofSet
  | .set members => .ok (.ofSet members)
  | .assertion a => .ok (.ofAssertion a)

/-- An atom that is no group. -/
def readAtom (r : PatternReading) : Except PatternFault (PatternTerm × PatternReading) := do
  match r.rest with
  | '\\' :: rest =>
      let (escape, rest) ← PatternEscape.read r.flags rest
      return (← ofEscape r.flags escape, { r with rest })
  | '[' :: rest =>
      let (term, rest) ← ClassTerm.read r.flags rest
      return (⟨.set term.members, term.depth, false⟩, { r with rest })
  | '.' :: rest => return (.ofSet (← r.flags.point), { r with rest })
  | '^' :: rest => return (.ofAssertion (lineStart r.flags), { r with rest })
  | '$' :: rest => return (.ofAssertion (lineEnd r.flags), { r with rest })
  | c :: rest => return (.ofSet (← PatternEscape.literal r.flags c false), { r with rest })
  | [] => throw .unfinished

/-- What an opening parenthesis starts. -/
inductive Opening where
  /-- Flags for the rest of the group around. -/
  | setting (r : PatternReading)
  | group (r : PatternReading)

/-- Reads from behind the opening parenthesis. -/
def readOpening (r : PatternReading) : Except PatternFault Opening := do
  match r.flags.skip r.rest with
  | '?' :: '=' :: _ => throw .lookaround
  | '?' :: '!' :: _ => throw .lookaround
  | '?' :: '<' :: '=' :: _ => throw .lookaround
  | '?' :: '<' :: '!' :: _ => throw .lookaround
  | '?' :: 'P' :: '<' :: rest => return .group (← readName { r with rest })
  | '?' :: '<' :: rest => return .group (← readName { r with rest })
  | '?' :: rest =>
      let (flags, seen, rest) ← r.flags.read [] rest
      match rest with
      | ')' :: behind =>
          if seen.isEmpty then throw .nothingToRepeat
          return .setting { r with flags, rest := behind }
      | _ => return .group { r with flags, rest := rest.drop 1 }
  | rest => return .group { r with rest }

mutual
def readAlternatives : Nat → List PatternTerm → PatternReading →
    Except PatternFault (PatternTerm × PatternReading)
  | 0, _, _ => .error .unfinished
  | bound + 1, done, r => do
      let (term, r) ← readSequence bound [] r
      match r.rest with
      | '|' :: rest => readAlternatives bound (term :: done) { r with rest }
      | _ => return (.alternatives (term :: done), r)

def readSequence : Nat → List Piece → PatternReading →
    Except PatternFault (PatternTerm × PatternReading)
  | 0, _, _ => .error .unfinished
  | bound + 1, pieces, r => do
      let r := { r with rest := r.flags.skip r.rest }
      match r.repetition? pieces, r.rest with
      | some taken, _ =>
          let (pieces, r) ← taken
          readSequence bound pieces r
      | none, [] => return (.sequence (pieces.filterMap id), r)
      | none, '|' :: _ => return (.sequence (pieces.filterMap id), r)
      | none, ')' :: _ => return (.sequence (pieces.filterMap id), r)
      | none, '(' :: rest =>
          match ← readOpening { r with rest } with
          | .setting r => readSequence bound (none :: pieces) r
          | .group inner =>
              let (term, after) ← readAlternatives bound [] inner
              match after.rest with
              | ')' :: rest =>
                  let term := { term with depth := term.depth + 1 }
                  readSequence bound (some term :: pieces)
                    { after with flags := r.flags, rest }
              | _ => throw .unclosedGroup
      | none, _ =>
          let (term, r) ← readAtom r
          readSequence bound (some term :: pieces) r
end

end PatternReading

namespace Pattern

/-- How deep the parts of a pattern may be nested. -/
def depthLimit : Nat := 250

/-- The pattern that a text states. -/
def compile (text : String) : Except PatternFault Pattern := do
  let cs := text.toList
  let (term, r) ←
    PatternReading.readAlternatives (3 * cs.length + 3) [] ⟨.default, [], cs⟩
  unless r.rest.isEmpty do throw .unopenedGroup
  if depthLimit < term.depth then throw .tooDeep
  if weightLimit < term.pattern.weight then throw .tooLarge
  return term.pattern

end Pattern
end Scaffold
