import Scaffold.Pattern.Escape

/-!
# Character classes

A class lists characters, ranges, sets and other classes between brackets.  The operators `&&`, `--`
and `~~` stand for intersection, difference and symmetric difference; they bind equally and to the
left, and weaker than listing.
-/

namespace Scaffold

/-- A set of characters and how deep its classes are nested. -/
structure ClassTerm where
  members : CharSet
  depth : Nat

inductive ClassOperator where
  | inter
  | diff
  | symmDiff

namespace ClassTerm

def leaf (members : CharSet) : ClassTerm := ⟨members, 0⟩

/-- All that is listed; the items come last one first. -/
def listed : List ClassTerm → ClassTerm
  | [] => ⟨.empty, 0⟩
  | [item] => item
  | item :: rest =>
      let others := rest.foldl (fun s t => CharSet.union t.members s) .empty
      ⟨.union others item.members, 1 + (item :: rest).foldl (fun d t => max d t.depth) 0⟩

/-- What has been read to the left of an operator. -/
abbrev Pending := Option (ClassTerm × ClassOperator)

def apply (flags : PatternFlags) (pending : Pending) (rhs : ClassTerm) : ClassTerm :=
  match pending with
  | none => rhs
  | some (lhs, op) =>
      let a := flags.fold lhs.members
      let b := flags.fold rhs.members
      let members :=
        match op with
        | .inter => CharSet.inter a b
        | .diff => CharSet.diff a b
        | .symmDiff => CharSet.symmDiff a b
      ⟨members, 1 + max lhs.depth rhs.depth⟩

def operator? : List Char → Option (ClassOperator × List Char)
  | '&' :: '&' :: rest => some (.inter, rest)
  | '-' :: '-' :: rest => some (.diff, rest)
  | '~' :: '~' :: rest => some (.symmDiff, rest)
  | _ => none

/-- A class of ASCII between `[:` and `:]`; a caret in front of the name negates it. -/
def named? (flags : PatternFlags) (cs : List Char) :
    Except PatternFault (Option (CharSet × List Char)) :=
  match cs with
  | '[' :: ':' :: rest =>
      let (negated, rest) :=
        match rest with
        | '^' :: more => (true, more)
        | _ => (false, rest)
      match rest.dropWhile (· != ':') with
      | ':' :: ']' :: behind =>
          match CharSet.asciiClasses.lookup (String.ofList (rest.takeWhile (· != ':'))) with
          | some s => (flags.foldAndNegate negated s).map fun s => some (s, behind)
          | none => .ok none
      | _ => .ok none
  | _ => .ok none

/-- One character or set within a class. -/
def readItem (flags : PatternFlags) : List Char →
    Except PatternFault (PatternEscape × List Char)
  | [] => .error .unclosedClass
  | '\\' :: rest => PatternEscape.read flags rest
  | c :: rest => .ok (.character c false, rest)

/-- The code point of an item within a class. -/
def codePoint (flags : PatternFlags) : PatternEscape → Except PatternFault Nat
  | .character c _ =>
      if !flags.unicode && 127 < c.toNat then .error .beyondAscii else .ok c.toNat
  | _ => .error .badRange

def ofItem (flags : PatternFlags) : PatternEscape → Except PatternFault CharSet
  | .character c byte => do
      let n ← codePoint flags (.character c byte)
      return .range n n
  | .set members => .ok members
  | .assertion _ => .error .classEscape

/-- A hyphen in front of the closing bracket or of another hyphen makes no range. -/
def endsItem (flags : PatternFlags) (cs : List Char) : Bool :=
  match cs with
  | '-' :: rest =>
      match flags.skip rest with
      | ']' :: _ => true
      | '-' :: _ => true
      | _ => false
  | _ => true

/-- An item or a range of two of them. -/
def readRange (flags : PatternFlags) (cs : List Char) :
    Except PatternFault (CharSet × List Char) := do
  let (first, rest) ← readItem flags cs
  let rest := flags.skip rest
  if rest.isEmpty then throw .unclosedClass
  if endsItem flags rest then return (← ofItem flags first, rest)
  let (last, rest) ← readItem flags (flags.skip (rest.drop 1))
  let low ← codePoint flags first
  let high ← codePoint flags last
  if high < low then throw .badRange
  return (.range low high, rest)

/-- Hyphens at the start are literal, and so is a closing bracket that comes first of all. -/
def readLiteralStart (flags : PatternFlags) (done : List ClassTerm) (cs : List Char) :
    List ClassTerm × List Char :=
  match _h : flags.skip cs with
  | [] => (done, [])
  | c :: rest =>
      if c = '-' then readLiteralStart flags (leaf (.single '-') :: done) rest
      else if c = ']' ∧ done.isEmpty then ([leaf (.single ']')], rest)
      else (done, c :: rest)
termination_by cs.length
decreasing_by exact PatternFlags.length_lt_of_skip_eq_cons _h

mutual
/-- Reads from behind the opening bracket to behind the closing one. -/
def readBody (flags : PatternFlags) : Nat → List Char →
    Except PatternFault (ClassTerm × List Char)
  | 0, _ => .error .unclosedClass
  | bound + 1, cs => do
      let (negated, rest) :=
        match flags.skip cs with
        | '^' :: rest => (true, rest)
        | rest => (false, rest)
      let (items, rest) := readLiteralStart flags [] rest
      let (term, rest) ← readItems flags bound none items rest
      return (⟨← flags.foldAndNegate negated term.members, 1 + term.depth⟩, rest)

/-- Reads items and operators up to the closing bracket. -/
def readItems (flags : PatternFlags) : Nat → Pending → List ClassTerm → List Char →
    Except PatternFault (ClassTerm × List Char)
  | 0, _, _, _ => .error .unclosedClass
  | bound + 1, pending, items, cs =>
      match flags.skip cs with
      | [] => .error .unclosedClass
      | ']' :: rest => .ok (apply flags pending (listed items), rest)
      | '[' :: rest => do
          match ← named? flags ('[' :: rest) with
          | some (s, rest) => readItems flags bound pending (leaf s :: items) rest
          | none =>
              let (inner, rest) ← readBody flags bound rest
              readItems flags bound pending (inner :: items) rest
      | other =>
          match operator? other with
          | some (op, rest) =>
              readItems flags bound (some (apply flags pending (listed items), op)) [] rest
          | none => do
              let (s, rest) ← readRange flags other
              readItems flags bound pending (leaf s :: items) rest
end

/-- The class that starts behind an opening bracket. -/
def read (flags : PatternFlags) (cs : List Char) : Except PatternFault (ClassTerm × List Char) :=
  readBody flags (2 * cs.length + 2) cs

end ClassTerm
end Scaffold
