import Scaffold.Number.Power
import Scaffold.Pattern.CharSet

/-!
# Patterns

A pattern matches pieces of a text.  Its meaning at a position is the list of positions at which a
match from there may end, the preferred end first: of two alternatives the first is preferred, and
of a repetition the longer one, or the shorter one when it is lazy.
-/

namespace Scaffold

/-- Conditions on a position. -/
inductive Assertion where
  | textStart
  | textEnd
  | lineStart
  | lineEnd
  /-- Line starts and ends where a line may also end in a carriage return. -/
  | anyLineStart
  | anyLineEnd
  | boundary (word : CharSet)
  | noBoundary (word : CharSet)
  | wordStart (word : CharSet)
  | wordEnd (word : CharSet)
  | noWordBefore (word : CharSet)
  | noWordAfter (word : CharSet)
deriving Repr

inductive Pattern where
  | empty
  | set (members : CharSet)
  | assertion (a : Assertion)
  | seq (p q : Pattern)
  | alt (p q : Pattern)
  | loop (p : Pattern) (least : Nat) (most : Option Nat) (greedy : Bool)
deriving Repr

namespace Assertion

def before? (text : Array Char) (i : Nat) : Option Char := if i = 0 then none else text[i - 1]?

def holds (text : Array Char) (i : Nat) (a : Assertion) : Bool :=
  let before := before? text i
  let after := text[i]?
  let wordBefore (word : CharSet) := before.any word.mem
  let wordAfter (word : CharSet) := after.any word.mem
  match a with
  | .textStart => before.isNone
  | .textEnd => after.isNone
  | .lineStart => before.isNone || before == some '\n'
  | .lineEnd => after.isNone || after == some '\n'
  | .anyLineStart =>
      before.isNone || before == some '\n' || (before == some '\r' && after != some '\n')
  | .anyLineEnd =>
      after.isNone || after == some '\r' || (after == some '\n' && before != some '\r')
  | .boundary word => wordBefore word != wordAfter word
  | .noBoundary word => wordBefore word == wordAfter word
  | .wordStart word => !wordBefore word && wordAfter word
  | .wordEnd word => wordBefore word && !wordAfter word
  | .noWordBefore word => !wordBefore word
  | .noWordAfter word => !wordAfter word

end Assertion

namespace Pattern

/-- The ends of `n` matches one after another. -/
def copies (step : Nat → List Nat) : Nat → Nat → List Nat
  | 0, i => [i]
  | n + 1, i => ((copies step n i).flatMap step).eraseDups

/-- The ends of at most `n` matches one after another. -/
def upTo (step : Nat → List Nat) (greedy : Bool) : Nat → Nat → List Nat
  | 0, i => [i]
  | n + 1, i =>
      let more := (step i).flatMap (upTo step greedy n)
      (if greedy then more ++ [i] else i :: more).eraseDups

/-- The ends reached by going round a loop from position `i`, added in front of those already
found.  Only steps forward go round once more. -/
def explore (step : Nat → List Nat) (size : Nat) (greedy : Bool) (i : Nat) (found : List Nat) :
    List Nat :=
  if found.contains i then found
  else
    let start := if greedy then found else i :: found
    let reached := (step i).foldl
      (fun acc k => if _ : i < k ∧ k ≤ size then explore step size greedy k acc else acc) start
    if greedy then i :: reached else reached
termination_by size - i

/-- The ends of one or more matches one after another. -/
def oneOrMore (step : Nat → List Nat) (size : Nat) (greedy : Bool) (i : Nat) : List Nat :=
  ((step i).foldl
    (fun acc k =>
      if k = i then (if acc.contains i then acc else i :: acc)
      else explore step size greedy k acc) []).reverse

def zeroOrMore (step : Nat → List Nat) (size : Nat) (greedy : Bool) (i : Nat) : List Nat :=
  let ends := oneOrMore step size greedy i
  (if greedy then ends ++ [i] else i :: ends).eraseDups

/-- The positions at which a match from `i` may end, the preferred one first. -/
def ends (text : Array Char) : Pattern → Nat → List Nat
  | .empty, i => [i]
  | .set members, i =>
      match text[i]? with
      | some c => if members.mem c then [i + 1] else []
      | none => []
  | .assertion a, i => if a.holds text i then [i] else []
  | .seq p q, i => ((ends text p i).flatMap (ends text q)).eraseDups
  | .alt p q, i => (ends text p i ++ ends text q i).eraseDups
  | .loop p least none greedy, i =>
      match least with
      | 0 => zeroOrMore (ends text p) text.size greedy i
      | n + 1 =>
          ((copies (ends text p) n i).flatMap
            (oneOrMore (ends text p) text.size greedy)).eraseDups
  | .loop p least (some most) greedy, i =>
      ((copies (ends text p) least i).flatMap
        (upTo (ends text p) greedy (most - least))).eraseDups

/-- The first match at or after `i`, looking at no more than `n` further positions. -/
def findWithin (p : Pattern) (text : Array Char) : Nat → Nat → Option (Nat × Nat)
  | 0, _ => none
  | n + 1, i =>
      match (p.ends text i).head? with
      | some e => some (i, e)
      | none => findWithin p text n (i + 1)

def findFrom (p : Pattern) (text : Array Char) (i : Nat) : Option (Nat × Nat) :=
  p.findWithin text (text.size + 1 - i) i

/-- The next match at or after `i`; an empty match right behind the last one does not count. -/
def nextMatch (p : Pattern) (text : Array Char) (i : Nat) (last : Option Nat) :
    Option (Nat × Nat) :=
  match p.findFrom text i with
  | none => none
  | some (s, e) =>
      if s = e ∧ last = some e then p.findFrom text (i + 1) else some (s, e)

/-- The matches from `i` on, at most `n` of them; no two overlap. -/
def matchesFrom (p : Pattern) (text : Array Char) :
    Nat → Nat → Option Nat → List (Nat × Nat)
  | 0, _, _ => []
  | n + 1, i, last =>
      match p.nextMatch text i last with
      | none => []
      | some (s, e) => (s, e) :: matchesFrom p text n e (some e)

def allMatches (p : Pattern) (text : Array Char) : List (Nat × Nat) :=
  p.matchesFrom text (2 * text.size + 3) 0 none

/-- The text with each of the pieces replaced. -/
def splice (text : Array Char) (replacement : List Char) : Nat → List (Nat × Nat) → List Char
  | i, [] => (text.extract i text.size).toList
  | i, (s, e) :: rest =>
      (text.extract i s).toList ++ replacement ++ splice text replacement e rest

/-- Puts the replacement, as it stands, in the place of every match. -/
def replaceAll (p : Pattern) (text replacement : String) : String :=
  let chars := text.toList.toArray
  String.ofList (splice chars replacement.toList 0 (p.allMatches chars))

/-- An estimate of the room that the compiled pattern takes.  It stands in for the count that the
matching engine makes of its own programs, from which it can differ. -/
def weight : Pattern → Nat
  | .empty => 32
  | .set members => members.weight
  | .assertion _ => 32
  | .seq p q => weight p + weight q
  | .alt p q => weight p + weight q + 40
  | .loop p least none _ => max least 1 * weight p + 64
  | .loop p least (some most) _ => max least most * (weight p + 40) + 32

/-- The engine gives ten mebibytes to a compiled pattern.  As `weight` is an estimate, patterns close
to the limit may be accepted here and refused there, or the other way round. -/
def weightLimit : Nat := 10 * powerOfTwo 20

end Pattern
end Scaffold
