import Scaffold.Json.Parser
import Scaffold.Pattern.Basic
import Scaffold.Pattern.Flags
import Scaffold.Variables.Reference

/-!
# Escapes in patterns

A backslash gives a character without its meaning, names a character or a set of characters, or
states a condition on the position.
-/

namespace Scaffold

inductive PatternEscape where
  /-- A character; a `byte` is written by two hexadecimal digits. -/
  | character (c : Char) (byte : Bool)
  | set (members : CharSet)
  | assertion (a : Assertion)
deriving Repr

namespace PatternEscape

/-- Reads from the text behind the backslash. -/
abbrev Reading (α : Type) := Except PatternFault (α × List Char)

def isMeta (c : Char) : Bool := "\\.+*?()|[]\x7b\x7d^$#&-~".toList.contains c

/-- The characters of ASCII that stand for themselves behind a backslash. -/
def isLiteral (c : Char) : Bool :=
  isMeta c || (c.toNat < 128 && !c.isAlphanum && c != '<' && c != '>')

/-- The characters that are named by a letter. -/
def named? : Char → Option Char
  | 'a' => some (Char.ofNat 7)
  | 'f' => some (Char.ofNat 12)
  | 'n' => some '\n'
  | 'r' => some '\r'
  | 't' => some '\t'
  | 'v' => some (Char.ofNat 11)
  | _ => none

/-- The character of the code point that the digits name. -/
def ofHex (digits : List Char) : Except PatternFault Char :=
  match digits.mapM Json.hexValue? with
  | none => .error .badCodePoint
  | some [] => .error .badCodePoint
  | some values =>
      let n := values.foldl (fun n d => n * 16 + d) 0
      if n.isValidChar then .ok (Char.ofNat n) else .error .badCodePoint

/-- Reads up to the closing brace. -/
def readBraced (flags : PatternFlags) (done : List Char) (cs : List Char) : Reading (List Char) :=
  match _h : flags.skip cs with
  | [] => .error .unfinished
  | c :: rest => if c = '}' then .ok (done.reverse, rest) else readBraced flags (c :: done) rest
termination_by cs.length
decreasing_by exact PatternFlags.length_lt_of_skip_eq_cons _h

/-- Reads that many characters. -/
def readFixed (flags : PatternFlags) : Nat → List Char → Reading (List Char)
  | 0, cs => .ok ([], cs)
  | n + 1, cs =>
      match flags.skip cs with
      | [] => .error .unfinished
      | c :: rest => (readFixed flags n rest).map fun (more, rest) => (c :: more, rest)

/-- A code point of a fixed number of digits, or of any number of them between braces. -/
def readHex (flags : PatternFlags) (width : Nat) (cs : List Char) :
    Except PatternFault (PatternEscape × List Char) := do
  match flags.skip cs with
  | '{' :: rest =>
      let (digits, rest) ← readBraced flags [] rest
      return (.character (← ofHex digits) false, flags.skip rest)
  | rest =>
      let (digits, rest) ← readFixed flags width rest
      return (.character (← ofHex digits) (width == 2), flags.skip rest)

/-- What stands before and behind the first `!=`. -/
def splitAtUnequal (done : List Char) : List Char → Option (List Char × List Char)
  | [] => none
  | '!' :: '=' :: rest => some (done.reverse, rest)
  | c :: rest => splitAtUnequal (c :: done) rest

/-- What stands before and behind the first such character. -/
def splitAtChar (separator : Char) (cs : List Char) : Option (List Char × List Char) :=
  match cs.dropWhile (· != separator) with
  | _ :: rest => some (cs.takeWhile (· != separator), rest)
  | [] => none

/-- The set that the text between the braces names: a name, or a kind and a value with `!=`, a colon
or an equality sign between them. -/
def propertyOf (name : List Char) : Option CharSet :=
  match splitAtUnequal [] name <|> splitAtChar ':' name <|> splitAtChar '=' name with
  | some (kind, value) => CharSet.ofKind? (CharSet.normalName kind) (CharSet.normalName value)
  | none => CharSet.named? (CharSet.normalName name)

def readProperty (flags : PatternFlags) (negated : Bool) (cs : List Char) :
    Except PatternFault (PatternEscape × List Char) := do
  let (name, rest) ←
    match flags.skip cs with
    | [] => throw .unfinished
    | '{' :: rest => readBraced flags [] rest
    | c :: rest => if c = '\\' then throw (.strangeEscape c) else pure ([c], flags.skip rest)
  if !flags.unicode then throw .beyondAscii
  match propertyOf name with
  | some s => return (.set (← flags.foldAndNegate negated s), rest)
  | none => throw (.unknownProperty (String.ofList name))

def isBoundaryChar (c : Char) : Bool := c.isAlpha || c == '-'

/-- The name between the braces behind `\b`. -/
def readBoundaryName (flags : PatternFlags) (done : List Char) (cs : List Char) :
    Reading String :=
  match _h : flags.skip cs with
  | [] => .error .unfinished
  | c :: rest =>
      if c = '}' then .ok (String.ofList done.reverse, rest)
      else if isBoundaryChar c then readBoundaryName flags (c :: done) rest
      else .error (.unknownBoundary (String.ofList done.reverse))
termination_by cs.length
decreasing_by exact PatternFlags.length_lt_of_skip_eq_cons _h

/-- A boundary of words; one of its two halves may be named in braces. -/
def readBoundary (flags : PatternFlags) (cs : List Char) :
    Except PatternFault (PatternEscape × List Char) := do
  let plain : PatternEscape := .assertion (.boundary flags.word)
  match cs with
  | '{' :: more =>
      match flags.skip more with
      | [] => throw .unfinished
      | c :: _ =>
          if !isBoundaryChar c then return (plain, cs)
          let (name, rest) ← readBoundaryName flags [] more
          match name with
          | "start" => return (.assertion (.wordStart flags.word), rest)
          | "end" => return (.assertion (.wordEnd flags.word), rest)
          | "start-half" => return (.assertion (.noWordBefore flags.word), rest)
          | "end-half" => return (.assertion (.noWordAfter flags.word), rest)
          | other => throw (.unknownBoundary other)
  | _ => return (plain, cs)

/-- The set that a letter names, or its complement. -/
def readSet (flags : PatternFlags) (negated : Bool) (s : CharSet) (rest : List Char) :
    Except PatternFault (PatternEscape × List Char) := do
  let members := if negated then .complement s else s
  if !flags.unicode && !members.isAscii then throw .beyondAscii
  return (.set members, rest)

/-- What the text behind a backslash stands for. -/
def read (flags : PatternFlags) : List Char → Except PatternFault (PatternEscape × List Char)
  | [] => .error .unfinished
  | c :: rest =>
      if c.isDigit then .error .backreference
      else
        match c with
        | 'x' => readHex flags 2 rest
        | 'u' => readHex flags 4 rest
        | 'U' => readHex flags 8 rest
        | 'p' => readProperty flags false rest
        | 'P' => readProperty flags true rest
        | 'd' => readSet flags false flags.digit rest
        | 's' => readSet flags false flags.space rest
        | 'w' => readSet flags false flags.word rest
        | 'D' => readSet flags true flags.digit rest
        | 'S' => readSet flags true flags.space rest
        | 'W' => readSet flags true flags.word rest
        | 'A' => .ok (.assertion .textStart, rest)
        | 'z' => .ok (.assertion .textEnd, rest)
        | 'b' => readBoundary flags rest
        | 'B' => .ok (.assertion (.noBoundary flags.word), rest)
        | '<' => .ok (.assertion (.wordStart flags.word), rest)
        | '>' => .ok (.assertion (.wordEnd flags.word), rest)
        | _ =>
            if isLiteral c then .ok (.character c false, rest)
            else
              match named? c with
              | some plain => .ok (.character plain false, rest)
              | none => .error (.strangeEscape c)

/-- The set of one character.  Without `unicode` a byte beyond ASCII is no character. -/
def literal (flags : PatternFlags) (c : Char) (byte : Bool) : Except PatternFault CharSet :=
  if !flags.unicode && byte && 127 < c.toNat then .error .beyondAscii
  else .ok (flags.fold (.single c))

end PatternEscape
end Scaffold
