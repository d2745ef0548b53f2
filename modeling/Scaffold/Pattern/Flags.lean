import Scaffold.Pattern.CharSet

/-!
# Flags of patterns

Flags change how the text of a pattern is read from the place on at which they are set, up to the
end of the group around it.  Without the flag `u` a pattern is about ASCII alone.
-/

namespace Scaffold

/-- Why a text is no pattern. -/
inductive PatternFault where
  | unfinished
  | strangeEscape (c : Char)
  | backreference
  | badCodePoint
  | unknownBoundary (name : String)
  | unknownProperty (name : String)
  | beyondAscii
  | unclosedClass
  | classEscape
  | badRange
  | unclosedGroup
  | unopenedGroup
  | badGroupName
  | lookaround
  | badFlags
  | nothingToRepeat
  | badCount
  | tooDeep
  | tooLarge
deriving DecidableEq, Repr

namespace PatternFault

def message : PatternFault → String
  | .unfinished => "unexpected end of pattern"
  | .strangeEscape c => "unrecognized escape of '" ++ c.toString ++ "'"
  | .backreference => "backreferences are not supported"
  | .badCodePoint => "invalid hexadecimal code point"
  | .unknownBoundary name => s!"unknown word boundary '{name}'"
  | .unknownProperty name => s!"unknown property '{name}'"
  | .beyondAscii => "not an ASCII character while Unicode is disabled"
  | .unclosedClass => "unclosed character class"
  | .classEscape => "escape is not allowed in a character class"
  | .badRange => "invalid character class range"
  | .unclosedGroup => "unclosed group"
  | .unopenedGroup => "unopened group"
  | .badGroupName => "invalid group name"
  | .lookaround => "look-around is not supported"
  | .badFlags => "invalid flags"
  | .nothingToRepeat => "repetition operator missing expression"
  | .badCount => "invalid repetition count"
  | .tooDeep => "pattern is nested too deeply"
  | .tooLarge => "compiled pattern is too large"

end PatternFault

/-- The value of each flag; `unicode` alone is set from the start. -/
structure PatternFlags where
  caseless : Bool
  multiLine : Bool
  dotAll : Bool
  swapGreed : Bool
  unicode : Bool
  verbose : Bool
  carriageReturns : Bool
deriving DecidableEq, Repr

namespace PatternFlags

def default : PatternFlags := ⟨false, false, false, false, true, false, false⟩

def set (flags : PatternFlags) (name : Char) (value : Bool) : Option PatternFlags :=
  match name with
  | 'i' => some { flags with caseless := value }
  | 'm' => some { flags with multiLine := value }
  | 's' => some { flags with dotAll := value }
  | 'U' => some { flags with swapGreed := value }
  | 'u' => some { flags with unicode := value }
  | 'x' => some { flags with verbose := value }
  | 'R' => some { flags with carriageReturns := value }
  | _ => none

/-- Reads flags up to a colon or a closing parenthesis.  Each flag may be named once, and one hyphen
turns the flags behind it off. -/
def read (flags : PatternFlags) (seen : List Char) : List Char →
    Except PatternFault (PatternFlags × List Char × List Char)
  | [] => .error .unfinished
  | c :: rest =>
      if c = ':' ∨ c = ')' then
        if seen.head? = some '-' then .error .badFlags else .ok (flags, seen, c :: rest)
      else if seen.contains c then .error .badFlags
      else if c = '-' then read flags (c :: seen) rest
      else
        match flags.set c (!seen.contains '-') with
        | some flags => read flags (c :: seen) rest
        | none => .error .badFlags

/-- Skips blanks and comments that start with a number sign and end with the line. -/
def skipVerbose (inComment : Bool) : List Char → List Char
  | [] => []
  | c :: rest =>
      if inComment then skipVerbose (c != '\n') rest
      else if Text.isBlank c then skipVerbose false rest
      else if c = '#' then skipVerbose true rest
      else c :: rest

/-- What is read next; blanks and comments have no meaning when `verbose` is set. -/
def skip (flags : PatternFlags) (cs : List Char) : List Char :=
  if flags.verbose then skipVerbose false cs else cs

theorem length_skipVerbose_le (inComment : Bool) (cs : List Char) :
    (skipVerbose inComment cs).length ≤ cs.length := by
  induction cs generalizing inComment with
  | nil => simp [skipVerbose]
  | cons c rest ih =>
      unfold skipVerbose
      split
      · exact Nat.le_succ_of_le (ih _)
      · split
        · exact Nat.le_succ_of_le (ih _)
        · split
          · exact Nat.le_succ_of_le (ih _)
          · exact Nat.le_refl _

theorem length_skip_le (flags : PatternFlags) (cs : List Char) :
    (flags.skip cs).length ≤ cs.length := by
  unfold skip
  split
  · exact length_skipVerbose_le false cs
  · exact Nat.le_refl _

theorem length_lt_of_skip_eq_cons {flags : PatternFlags} {cs rest : List Char} {c : Char}
    (h : flags.skip cs = c :: rest) : rest.length < cs.length := by
  have := length_skip_le flags cs
  simp [h] at this
  omega

/-- The set with all case variants of its members, when case is to be ignored. -/
def fold (flags : PatternFlags) (s : CharSet) : CharSet :=
  if flags.caseless then (if flags.unicode then .caseless s else .asciiCaseless s) else s

/-- Case variants are added first and the complement is taken after that.  Without `unicode` no byte
beyond ASCII may be in the set. -/
def foldAndNegate (flags : PatternFlags) (negated : Bool) (s : CharSet) :
    Except PatternFault CharSet :=
  let folded := flags.fold s
  let result := if negated then .complement folded else folded
  if !flags.unicode && !result.isAscii then .error .beyondAscii else .ok result

def word (flags : PatternFlags) : CharSet := if flags.unicode then .word else .asciiWord

def digit (flags : PatternFlags) : CharSet := if flags.unicode then .digit else .asciiDigit

def space (flags : PatternFlags) : CharSet := if flags.unicode then .space else .asciiSpace

/-- The set of a point: all characters, or all that end no line. -/
def point (flags : PatternFlags) : Except PatternFault CharSet :=
  if !flags.unicode then .error .beyondAscii
  else if flags.dotAll then .ok .any
  else if flags.carriageReturns then
    .ok (.complement (.union (.single '\n') (.single '\r')))
  else .ok (.complement (.single '\n'))

end PatternFlags
end Scaffold
