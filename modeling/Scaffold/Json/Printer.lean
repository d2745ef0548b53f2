import Scaffold.Json.Basic
import Scaffold.Number.Shortest

/-!
# Writing JSON

The compact form has no blanks at all.  The pretty form puts each item on a line of its own, two
spaces deeper than the container it belongs to; an empty container stays on one line.
-/

namespace Scaffold
namespace Json

/-- A decimal is written out when its first digit stands for `10 ^ (-5)` to `10 ^ 15`, and then has
a point; beyond that the exponent is written with its sign. -/
def realText (x : Binary64) : String :=
  let sign := if x.isNegative then "-" else ""
  if x.isZero then sign ++ "0.0"
  else
    let d := Decimal.shortest .toEven x
    let e := d.leadingExponent
    sign ++ (if -5 ≤ e ∧ e ≤ 15 then d.positional ".0" else d.scientific)

def numeralText : Numeral → String
  | .whole n => toString n
  | .real x => realText x

def hexDigit (n : Nat) : Char :=
  if n < 10 then Char.ofNat (48 + n) else Char.ofNat (87 + n)

/-- Quotes, backslashes and control characters are written with a backslash. -/
def escapeChar (c : Char) : List Char :=
  match c with
  | '"' => ['\\', '"']
  | '\\' => ['\\', '\\']
  | '\n' => ['\\', 'n']
  | '\r' => ['\\', 'r']
  | '\t' => ['\\', 't']
  | _ =>
      if c.toNat = 8 then ['\\', 'b']
      else if c.toNat = 12 then ['\\', 'f']
      else if c.toNat < 32 then
        ['\\', 'u', '0', '0', hexDigit (c.toNat / 16), hexDigit (c.toNat % 16)]
      else [c]

def quotedChars (s : String) : List Char :=
  '"' :: s.toList.flatMap escapeChar ++ ['"']

def quoted (s : String) : String := String.ofList (quotedChars s)

def scalarText : Json → String
  | .null => "null"
  | .bool b => if b then "true" else "false"
  | .number n => numeralText n
  | .string s => quoted s
  | .array _ => "[]"
  | .object _ => "\x7b\x7d"

mutual
def compactChars : Json → List Char
  | .array items => '[' :: compactItems items ++ [']']
  | .object fields => '{' :: compactFields fields ++ ['}']
  | v => (scalarText v).toList

def compactItems : List Json → List Char
  | [] => []
  | [v] => compactChars v
  | v :: rest => compactChars v ++ ',' :: compactItems rest

def compactFields : List (String × Json) → List Char
  | [] => []
  | [(k, v)] => quotedChars k ++ ':' :: compactChars v
  | (k, v) :: rest => quotedChars k ++ ':' :: compactChars v ++ ',' :: compactFields rest
end

/-- The text of a value without any blanks. -/
def compact (v : Json) : String := String.ofList (compactChars v)

def lineBreak (depth : Nat) : List Char := '\n' :: List.replicate (2 * depth) ' '

mutual
def prettyChars (depth : Nat) : Json → List Char
  | .array (v :: rest) =>
      '[' :: lineBreak (depth + 1) ++ prettyItems (depth + 1) (v :: rest) ++
        lineBreak depth ++ [']']
  | .object (field :: rest) =>
      '{' :: lineBreak (depth + 1) ++ prettyFields (depth + 1) (field :: rest) ++
        lineBreak depth ++ ['}']
  | v => (scalarText v).toList

def prettyItems (depth : Nat) : List Json → List Char
  | [] => []
  | [v] => prettyChars depth v
  | v :: rest => prettyChars depth v ++ ',' :: lineBreak depth ++ prettyItems depth rest

def prettyFields (depth : Nat) : List (String × Json) → List Char
  | [] => []
  | [(k, v)] => quotedChars k ++ ':' :: ' ' :: prettyChars depth v
  | (k, v) :: rest =>
      quotedChars k ++ ':' :: ' ' :: prettyChars depth v ++ ',' :: lineBreak depth ++
        prettyFields depth rest
end

/-- The text of a value over several lines. -/
def pretty (v : Json) : String := String.ofList (prettyChars 0 v)

end Json
end Scaffold
