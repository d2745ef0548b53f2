import Scaffold.Json.Numeral

/-!
# Reading JSON

A text is one value with blanks around it.  Containers nest at most 127 levels deep.  When reading
stops, the error tells the line and the column of the character at which it stopped.
-/

namespace Scaffold
namespace Json

/-- The place of the first character that cannot be read. -/
structure SyntaxError where
  line : Nat
  column : Nat
deriving DecidableEq, Repr

def SyntaxError.message (e : SyntaxError) : String :=
  s!"malformed JSON at line {e.line} column {e.column}"

/-- The place in `text` of the character in front of which `unread` is all that is left. -/
def SyntaxError.at (text unread : List Char) : SyntaxError :=
  let seen := text.take (text.length - unread.length)
  { line := 1 + seen.count '\n'
    column := (seen.reverse.takeWhile (· != '\n')).length + 1 }

def isSpace (c : Char) : Bool := c == ' ' || c == '\n' || c == '\t' || c == '\r'

def skipSpace (cs : List Char) : List Char := cs.dropWhile isSpace

def hexValue? (c : Char) : Option Nat :=
  if '0' ≤ c && c ≤ '9' then some (c.toNat - 48)
  else if 'a' ≤ c && c ≤ 'f' then some (c.toNat - 87)
  else if 'A' ≤ c && c ≤ 'F' then some (c.toNat - 55)
  else none

/-- A number of four hexadecimal digits. -/
def readHex4 : List Char → Step Nat
  | a :: b :: c :: d :: rest =>
      match hexValue? a, hexValue? b, hexValue? c, hexValue? d with
      | some a, some b, some c, some d => .ok (((a * 16 + b) * 16 + c) * 16 + d, rest)
      | _, _, _, _ => .error (a :: b :: c :: d :: rest)
  | cs => .error cs

def isHighSurrogate (n : Nat) : Bool := 0xD800 ≤ n && n ≤ 0xDBFF

def isLowSurrogate (n : Nat) : Bool := 0xDC00 ≤ n && n ≤ 0xDFFF

/-- The character after `\u`; the two halves of a surrogate pair stand together or not at all. -/
def readUnicodeEscape (cs : List Char) : Except (List Char) (Char × List Char) := do
  let (n, rest) ← readHex4 cs
  if isLowSurrogate n then .error cs
  else if isHighSurrogate n then
    match rest with
    | '\\' :: 'u' :: more =>
        let (low, rest) ← readHex4 more
        if isLowSurrogate low then
          .ok (Char.ofNat (0x10000 + (n - 0xD800) * 0x400 + (low - 0xDC00)), rest)
        else .error more
    | _ => .error rest
  else .ok (Char.ofNat n, rest)

def simpleEscape? : Char → Option Char
  | '"' => some '"'
  | '\\' => some '\\'
  | '/' => some '/'
  | 'b' => some (Char.ofNat 8)
  | 'f' => some (Char.ofNat 12)
  | 'n' => some '\n'
  | 'r' => some '\r'
  | 't' => some '\t'
  | _ => none

/-- The text up to the closing quote, behind the characters already read in reverse. -/
def readStringTail (done : List Char) (cs : List Char) : Step String :=
  match cs with
  | [] => .error []
  | '"' :: rest => .ok (String.ofList done.reverse, rest)
  | '\\' :: 'u' :: rest =>
      match readUnicodeEscape rest with
      | .error unread => .error unread
      | .ok (c, after) =>
          if after.length < rest.length then readStringTail (c :: done) after else .error after
  | '\\' :: c :: rest =>
      match simpleEscape? c with
      | some plain => readStringTail (plain :: done) rest
      | none => .error (c :: rest)
  | c :: rest => if c.toNat < 32 then .error (c :: rest) else readStringTail (c :: done) rest
termination_by cs.length

def readLiteral (literal : String) (value : Json) (cs : List Char) : Step Json :=
  if literal.toList.isPrefixOf cs then .ok (value, cs.drop literal.length) else .error cs

/-- Items up to the closing bracket, each read by `item`. -/
def readItems (item : List Char → Step Json) (done : List Json) (cs : List Char) :
    Step (List Json) :=
  match item cs with
  | .error unread => .error unread
  | .ok (v, after) =>
      match skipSpace after with
      | ',' :: rest =>
          if rest.length < cs.length then readItems item (v :: done) rest else .error rest
      | ']' :: rest => .ok ((v :: done).reverse, rest)
      | unread => .error unread
termination_by cs.length

/-- One key, a colon and one value. -/
def readField (item : List Char → Step Json) (cs : List Char) : Step (String × Json) :=
  match skipSpace cs with
  | '"' :: rest =>
      match readStringTail [] rest with
      | .error unread => .error unread
      | .ok (key, after) =>
          match skipSpace after with
          | ':' :: rest =>
              match item rest with
              | .error unread => .error unread
              | .ok (v, after) => .ok ((key, v), after)
          | unread => .error unread
  | unread => .error unread

/-- Fields up to the closing brace; a key that comes again keeps its first place. -/
def readFields (item : List Char → Step Json) (done : Fields) (cs : List Char) : Step Fields :=
  match readField item cs with
  | .error unread => .error unread
  | .ok ((key, v), after) =>
      match skipSpace after with
      | ',' :: rest =>
          if rest.length < cs.length then readFields item (Fields.insert key v done) rest
          else .error rest
      | '}' :: rest => .ok (Fields.insert key v done, rest)
      | unread => .error unread
termination_by cs.length

def readScalar (cs : List Char) : Step Json :=
  match cs with
  | 'n' :: _ => readLiteral "null" .null cs
  | 't' :: _ => readLiteral "true" (.bool true) cs
  | 'f' :: _ => readLiteral "false" (.bool false) cs
  | '"' :: rest => (readStringTail [] rest).map fun (s, rest) => (.string s, rest)
  | c :: _ =>
      if c = '-' ∨ isDigit c then (readNumeral cs).map fun (n, rest) => (.number n, rest)
      else .error cs
  | [] => .error []

/-- One value, blanks in front of it included, with containers at most `depth` levels deep. -/
def readValue : Nat → List Char → Step Json
  | 0, cs => readScalar (skipSpace cs)
  | depth + 1, cs =>
      match skipSpace cs with
      | '[' :: rest =>
          match skipSpace rest with
          | ']' :: after => .ok (.array [], after)
          | _ => (readItems (readValue depth) [] rest).map fun (items, r) => (.array items, r)
      | '{' :: rest =>
          match skipSpace rest with
          | '}' :: after => .ok (.object [], after)
          | _ => (readFields (readValue depth) [] rest).map fun (fields, r) => (.object fields, r)
      | other => readScalar other

/-- How many containers may stand inside one another. -/
def nestingLimit : Nat := 127

def parseWithin (limit : Nat) (text : String) : Except SyntaxError Json :=
  match readValue limit text.toList with
  | .error unread => .error (.at text.toList unread)
  | .ok (v, rest) =>
      match skipSpace rest with
      | [] => .ok v
      | unread => .error (.at text.toList unread)

def parse (text : String) : Except SyntaxError Json := parseWithin nestingLimit text

end Json
end Scaffold
