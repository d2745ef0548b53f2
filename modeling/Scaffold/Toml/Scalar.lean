import Scaffold.Json.Parser
import Scaffold.Text.Blank
import Scaffold.Toml.Basic

/-!
# Scalars of TOML

Strings in four spellings, numbers, truth values, dates and times.
-/

namespace Scaffold
namespace Toml

def isBlankChar (c : Char) : Bool := c == ' ' || c == '\t'

/-- Control characters, tabs apart, stand nowhere in a document. -/
def isControl (c : Char) : Bool := (c.toNat < 32 && c != '\t') || c.toNat == 127

def skipBlanks (cs : List Char) : List Char := cs.dropWhile isBlankChar

/-- The text behind the end of a line, if a line ends here. -/
def lineEnd? : List Char → Option (List Char)
  | '\n' :: rest => some rest
  | '\r' :: '\n' :: rest => some rest
  | _ => none

def hexNumber (digits : List Char) : Option Nat :=
  (digits.mapM Json.hexValue?).map fun values => values.foldl (fun n d => n * 16 + d) 0

/-- The character whose code point is written in that many digits. -/
def codePoint (width : Nat) (cs : List Char) : Option (Char × List Char) :=
  let digits := cs.take width
  if digits.length = width then
    match hexNumber digits with
    | some n => if n.isValidChar then some (Char.ofNat n, cs.drop width) else none
    | none => none
  else none

/-- The character that a backslash and what follows it stand for. -/
def escaped : List Char → Option (Char × List Char)
  | 'b' :: rest => some (Char.ofNat 8, rest)
  | 't' :: rest => some ('\t', rest)
  | 'n' :: rest => some ('\n', rest)
  | 'f' :: rest => some (Char.ofNat 12, rest)
  | 'r' :: rest => some ('\r', rest)
  | 'e' :: rest => some (Char.ofNat 27, rest)
  | '"' :: rest => some ('"', rest)
  | '\\' :: rest => some ('\\', rest)
  | 'x' :: rest => codePoint 2 rest
  | 'u' :: rest => codePoint 4 rest
  | 'U' :: rest => codePoint 8 rest
  | _ => none

/-- Up to the closing quote, behind what has been read in reverse. -/
def readBasic (done : List Char) (cs : List Char) : Option (String × List Char) :=
  match cs with
  | [] => none
  | '"' :: rest => some (String.ofList done.reverse, rest)
  | '\\' :: rest =>
      match escaped rest with
      | some (c, after) =>
          if after.length < rest.length + 1 then readBasic (c :: done) after else none
      | none => none
  | c :: rest => if isControl c then none else readBasic (c :: done) rest
termination_by cs.length

def readLiteral (done : List Char) : List Char → Option (String × List Char)
  | [] => none
  | '\'' :: rest => some (String.ofList done.reverse, rest)
  | c :: rest => if isControl c then none else readLiteral (c :: done) rest

/-- Three quotes close a string of several lines; up to two more belong to it. -/
def closing? (quote : Char) (cs : List Char) : Option (List Char × List Char) :=
  let quotes := cs.takeWhile (· == quote)
  let n := min quotes.length 5
  if 3 ≤ n then some (quotes.take (n - 3), cs.drop n) else none

/-- A backslash at the end of a line swallows all blanks and line ends behind it. -/
def skipFold (cs : List Char) : List Char :=
  cs.dropWhile fun c => isBlankChar c || c == '\n' || c == '\r'

def foldsLine (cs : List Char) : Bool := (lineEnd? (skipBlanks cs)).isSome

/-- Up to three closing quotes; `escapes` tells whether a backslash has a meaning. -/
def readLines (quote : Char) (escapes : Bool) (done : List Char) (cs : List Char) :
    Option (String × List Char) :=
  match closing? quote cs with
  | some (quotes, rest) => some (String.ofList (done.reverse ++ quotes), rest)
  | none =>
      match cs with
      | [] => none
      | '\r' :: '\n' :: rest => readLines quote escapes ('\n' :: done) rest
      | '\\' :: rest =>
          if !escapes then readLines quote escapes ('\\' :: done) rest
          else if foldsLine rest then
            if (skipFold rest).length < rest.length + 1 then
              readLines quote escapes done (skipFold rest)
            else none
          else
            match escaped rest with
            | some (c, after) =>
                if after.length < rest.length + 1 then
                  readLines quote escapes (c :: done) after
                else none
            | none => none
      | c :: rest =>
          if isControl c && c != '\n' then none
          else readLines quote escapes (c :: done) rest
termination_by cs.length

/-- A line end right behind the opening quotes does not count. -/
def dropFirstLineEnd (cs : List Char) : List Char := (lineEnd? cs).getD cs

def readString : List Char → Option (String × List Char)
  | '"' :: '"' :: '"' :: rest => readLines '"' true [] (dropFirstLineEnd rest)
  | '\'' :: '\'' :: '\'' :: rest => readLines '\'' false [] (dropFirstLineEnd rest)
  | '"' :: rest => readBasic [] rest
  | '\'' :: rest => readLiteral [] rest
  | _ => none

/-- The digits of a number; underscores may stand between two of them. -/
def digitsOf (isDigit : Char → Bool) (cs : List Char) : Option (List Char) :=
  let groups := Text.pieces (· == '_') cs
  if groups.all fun group => !group.isEmpty && group.all isDigit then some groups.flatten
  else none

def valueOf (base : Nat) (digits : List Char) : Option Nat :=
  (digits.mapM Json.hexValue?).map fun values => values.foldl (fun n d => n * base + d) 0

/-- Decimal digits without a zero in front of others. -/
def wholeDigits (cs : List Char) : Option (List Char) :=
  match digitsOf Char.isDigit cs with
  | some digits =>
      if digits.length = 1 ∨ digits.head? ≠ some '0' then some digits else none
  | none => none

def inRange (n : Int) : Option Toml :=
  if -(powerOfTwo 63 : Int) ≤ n ∧ n < powerOfTwo 63 then some (.integer n) else none

def splitSign : List Char → Bool × List Char
  | '-' :: rest => (true, rest)
  | '+' :: rest => (false, rest)
  | cs => (false, cs)

def isOctal (c : Char) : Bool := '0' ≤ c && c ≤ '7'

def isBinary (c : Char) : Bool := c == '0' || c == '1'

def readInteger (cs : List Char) : Option Toml :=
  let based (isDigit : Char → Bool) (base : Nat) (rest : List Char) : Option Toml := do
    let digits ← digitsOf isDigit rest
    let n ← valueOf base digits
    inRange n
  match cs with
  | '0' :: 'x' :: rest => based (fun c => (Json.hexValue? c).isSome) 16 rest
  | '0' :: 'o' :: rest => based isOctal 8 rest
  | '0' :: 'b' :: rest => based isBinary 2 rest
  | _ => do
      let (negative, rest) := splitSign cs
      let digits ← wholeDigits rest
      let n ← valueOf 10 digits
      inRange (if negative then -(n : Int) else n)

/-- The number `digits * 10 ^ exponent`, unless it is too large. -/
def scaledReal (negative : Bool) (digits : List Char) (exponent : Int) : Option Toml :=
  let n := Binary64.decimalValue digits
  let size : Int := exponent + digits.length
  if n = 0 ∨ size < -400 then some (.real (Binary64.zero negative))
  else if 400 < size then none
  else
    let x :=
      if 0 ≤ exponent then Binary64.ofRatio negative (n * powerOfTen exponent.toNat) 1
      else Binary64.ofRatio negative n (powerOfTen (-exponent).toNat)
    if x.isInfinite then none else some (.real x)

def isExponentMark (c : Char) : Bool := c == 'e' || c == 'E'

def readReal (cs : List Char) : Option Toml := do
  let (negative, rest) := splitSign cs
  if rest = ['i', 'n', 'f'] then return .real (Binary64.infinity negative)
  if rest = ['n', 'a', 'n'] then return .real ⟨0x7FF8000000000000⟩
  let mantissa := rest.takeWhile (!isExponentMark ·)
  let exponent ←
    match rest.dropWhile (!isExponentMark ·) with
    | [] => some (0 : Int)
    | _ :: tail =>
        let (downward, tail) := splitSign tail
        (digitsOf Char.isDigit tail).map fun digits =>
          let n : Int := Binary64.decimalValue digits
          if downward then -n else n
  let whole ← wholeDigits (mantissa.takeWhile (· != '.'))
  match mantissa.dropWhile (· != '.') with
  | [] =>
      if rest.any isExponentMark then scaledReal negative whole exponent else none
  | _ :: places =>
      let places ← digitsOf Char.isDigit places
      scaledReal negative (whole ++ places) (exponent - places.length)

/-- A number of exactly that many digits. -/
def fixedNumber (width : Nat) (cs : List Char) : Option (Nat × List Char) :=
  let digits := cs.take width
  if digits.length = width && digits.all Char.isDigit then
    some (Binary64.decimalValue digits, cs.drop width)
  else none

def expect (c : Char) : List Char → Option (List Char)
  | d :: rest => if d = c then some rest else none
  | [] => none

def padded (width n : Nat) : String :=
  let digits := (toString n).toList
  String.ofList (List.replicate (width - digits.length) '0' ++ digits)

def daysIn (year month : Nat) : Nat :=
  if month = 2 then
    if (year % 4 = 0 ∧ year % 100 ≠ 0) ∨ year % 400 = 0 then 29 else 28
  else if month = 4 ∨ month = 6 ∨ month = 9 ∨ month = 11 then 30
  else 31

def readDate (cs : List Char) : Option (String × List Char) := do
  let (year, rest) ← fixedNumber 4 cs
  let rest ← expect '-' rest
  let (month, rest) ← fixedNumber 2 rest
  let rest ← expect '-' rest
  let (day, rest) ← fixedNumber 2 rest
  if 1 ≤ month ∧ month ≤ 12 ∧ 1 ≤ day ∧ day ≤ daysIn year month then
    return (padded 4 year ++ "-" ++ padded 2 month ++ "-" ++ padded 2 day, rest)
  else none

/-- The places behind the point of a second, nine of them at most, without zeros at the end. -/
def secondPlaces (digits : List Char) : String :=
  let kept := ((digits.take 9).reverse.dropWhile (· == '0')).reverse
  if kept.isEmpty then "" else "." ++ String.ofList kept

def readSeconds (rest : List Char) : Option (String × List Char) :=
  match rest with
  | ':' :: rest => do
      let (second, rest) ← fixedNumber 2 rest
      if 60 < second then none
      match rest with
      | '.' :: rest =>
          let digits := rest.takeWhile Char.isDigit
          if digits.isEmpty then none
          else
            return (":" ++ padded 2 second ++ secondPlaces digits, rest.dropWhile Char.isDigit)
      | _ => return (":" ++ padded 2 second, rest)
  | _ => some ("", rest)

/-- A time of the day; its seconds may be missing. -/
def readTime (cs : List Char) : Option (String × List Char) := do
  let (hour, rest) ← fixedNumber 2 cs
  let rest ← expect ':' rest
  let (minute, rest) ← fixedNumber 2 rest
  if 23 < hour ∨ 59 < minute then none
  let (seconds, rest) ← readSeconds rest
  return (padded 2 hour ++ ":" ++ padded 2 minute ++ seconds, rest)

def readOffset : List Char → Option String
  | [] => some ""
  | ['Z'] => some "Z"
  | ['z'] => some "Z"
  | sign :: rest => do
      if sign ≠ '+' ∧ sign ≠ '-' then none
      let (hour, rest) ← fixedNumber 2 rest
      let rest ← expect ':' rest
      let (minute, rest) ← fixedNumber 2 rest
      if 23 < hour ∨ 59 < minute ∨ !rest.isEmpty then none
      return sign.toString ++ padded 2 hour ++ ":" ++ padded 2 minute

def readDatetime (cs : List Char) : Option Toml :=
  match readDate cs with
  | some (date, []) => some (.datetime date)
  | some (date, mark :: rest) => do
      if mark ≠ 'T' ∧ mark ≠ 't' ∧ mark ≠ ' ' then none
      let (time, rest) ← readTime rest
      let offset ← readOffset rest
      return .datetime (date ++ "T" ++ time ++ offset)
  | none => do
      let (time, rest) ← readTime cs
      if rest.isEmpty then return .datetime time else none

/-- The value of a word. -/
def ofWord (cs : List Char) : Option Toml :=
  if cs = ['t', 'r', 'u', 'e'] then some (.bool true)
  else if cs = ['f', 'a', 'l', 's', 'e'] then some (.bool false)
  else readInteger cs <|> readReal cs <|> readDatetime cs

def endsWord (c : Char) : Bool :=
  isBlankChar c || c == '\n' || c == '\r' || c == '#' || c == ',' || c == ']' || c == '}'

/-- A word; a date takes a time behind one blank with it. -/
def takeWord (cs : List Char) : List Char × List Char :=
  let word := cs.takeWhile (!endsWord ·)
  let rest := cs.dropWhile (!endsWord ·)
  match readDate word, rest with
  | some (_, []), ' ' :: more =>
      let time := more.takeWhile (!endsWord ·)
      if (readTime time).isSome then (word ++ ' ' :: time, more.dropWhile (!endsWord ·))
      else (word, rest)
  | _, _ => (word, rest)

/-- A value that is no container. -/
def readScalar (cs : List Char) : Option (Toml × List Char) :=
  match cs with
  | '"' :: _ => (readString cs).map fun (s, rest) => (.string s, rest)
  | '\'' :: _ => (readString cs).map fun (s, rest) => (.string s, rest)
  | _ =>
      let (word, rest) := takeWord cs
      (ofWord word).map fun v => (v, rest)

end Toml
end Scaffold
