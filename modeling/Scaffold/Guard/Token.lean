import Scaffold.Number.Plain
import Scaffold.Variables.Reference

/-!
# Tokens of guards

A guard is cut into references, literals, words, operators and parentheses.  Blanks separate tokens
and are otherwise without meaning; `===` and `!==` are spellings of `==` and `!=`.
-/

namespace Scaffold

inductive Token where
  | reference (scope : Scope) (name : String)
  | text (s : String)
  | number (x : Binary64)
  | word (s : String)
  | not
  | and
  | or
  | equal
  | differ
  | opening
  | closing
deriving DecidableEq, Repr

/-- How messages name a token. -/
def Token.describe : Token → String
  | .reference scope name => "reference '" ++ scope.sigil.toString ++ name ++ "'"
  | .text s => "string '" ++ s ++ "'"
  | .number x => "number " ++ x.plainText
  | .word s => "identifier '" ++ s ++ "'"
  | .not => "'!'"
  | .and => "'&&'"
  | .or => "'||'"
  | .equal => "'=='"
  | .differ => "'!='"
  | .opening => "'('"
  | .closing => "')'"

/-- Why a text is no guard. -/
inductive GuardFault where
  | empty
  | assignment
  | loneAmpersand
  | loneBar
  | nameExpected (sigil : Char)
  | unterminatedText
  | badNumber (raw : String)
  | strangeCharacter (c : Char)
  | strangeToken (t : Token)
  | strangeWord (word : String)
  | unclosedParenthesis
  | unfinished
deriving DecidableEq, Repr

def GuardFault.message : GuardFault → String
  | .empty => "expression is empty"
  | .assignment => "assignment is not supported, use '=='"
  | .loneAmpersand => "expected '&&'"
  | .loneBar => "expected '||'"
  | .nameExpected sigil => "expected a name after '" ++ sigil.toString ++ "'"
  | .unterminatedText => "unterminated string literal"
  | .badNumber raw => s!"invalid number '{raw}'"
  | .strangeCharacter c => "unexpected character '" ++ c.toString ++ "'"
  | .strangeToken t => "unexpected " ++ t.describe
  | .strangeWord word => s!"unknown identifier '{word}', prefix variables with '#' or '@'"
  | .unclosedParenthesis => "missing ')'"
  | .unfinished => "unexpected end of expression"

namespace Token

def isNumberStart (c : Char) : Bool := c.isDigit || c == '-'

def isNumberChar (c : Char) : Bool := c.isDigit || c == '.' || c == '-'

def isWordStart (c : Char) : Bool := c.isAlpha || c == '_'

def isWordChar (c : Char) : Bool := c.isAlphanum || c == '_'

/-- The character that a backslash and `c` stand for. -/
def unescape (c : Char) : Char := if c = 'n' then '\n' else if c = 't' then '\t' else c

/-- The text up to the closing quote, and how many characters it takes, the quote included. -/
def readText (quote : Char) : List Char → Except GuardFault (List Char × Nat)
  | [] => .error .unterminatedText
  | c :: rest =>
      if c = quote then .ok ([], 1)
      else if c = '\\' then
        match rest with
        | [] => .error .unterminatedText
        | escaped :: more =>
            (readText quote more).map fun (s, used) => (unescape escaped :: s, used + 2)
      else (readText quote rest).map fun (s, used) => (c :: s, used + 1)

/-- How many equality signs, one at most, stand at the front. -/
def leadingEquals : List Char → Nat
  | '=' :: _ => 1
  | _ => 0

/-- The token that starts with `c`, if it is not a blank, and how much of the text behind `c`
belongs to it. -/
def scan (c : Char) (rest : List Char) : Except GuardFault (Option Token × Nat) :=
  if Text.isBlank c then .ok (none, 0)
  else if c = '(' then .ok (some .opening, 0)
  else if c = ')' then .ok (some .closing, 0)
  else if c = '!' then
    match rest with
    | '=' :: more => .ok (some .differ, 1 + leadingEquals more)
    | _ => .ok (some .not, 0)
  else if c = '=' then
    match rest with
    | '=' :: more => .ok (some .equal, 1 + leadingEquals more)
    | _ => .error .assignment
  else if c = '&' then
    if rest.head? = some '&' then .ok (some .and, 1) else .error .loneAmpersand
  else if c = '|' then
    if rest.head? = some '|' then .ok (some .or, 1) else .error .loneBar
  else if c = '\'' ∨ c = '"' then
    (readText c rest).map fun (s, used) => (some (.text (String.ofList s)), used)
  else
    match Scope.ofSigil? c with
    | some scope =>
        let name := rest.takeWhile VariableRef.isNameChar
        if name.isEmpty then .error (.nameExpected c)
        else .ok (some (.reference scope (String.ofList name)), name.length)
    | none =>
        if isNumberStart c then
          let raw := rest.takeWhile isNumberChar
          match Binary64.ofPlain? (c :: raw) with
          | some x => .ok (some (.number x), raw.length)
          | none => .error (.badNumber (String.ofList (c :: raw)))
        else if isWordStart c then
          let tail := rest.takeWhile isWordChar
          .ok (some (.word (String.ofList (c :: tail))), tail.length)
        else .error (.strangeCharacter c)

/-- The tokens of a text. -/
def tokenize : List Char → Except GuardFault (List Token)
  | [] => .ok []
  | c :: rest =>
      match scan c rest with
      | .error e => .error e
      | .ok (token, used) => (tokenize (rest.drop used)).map (token.toList ++ ·)
termination_by cs => cs.length
decreasing_by
  simp only [List.length_drop, List.length_cons]
  omega

theorem tokenize_nil : tokenize [] = .ok [] := by
  rw [tokenize.eq_def]

theorem tokenize_cons (c : Char) (rest : List Char) :
    tokenize (c :: rest) =
      match scan c rest with
      | .error e => .error e
      | .ok (token, used) => (tokenize (rest.drop used)).map (token.toList ++ ·) := by
  rw [tokenize.eq_def]

end Token
end Scaffold
