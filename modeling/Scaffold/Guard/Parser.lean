import Scaffold.Guard.Condition
import Scaffold.Guard.Token

/-!
# Reading guards

The grammar has five levels:

    or      := and ("||" and)*
    and     := unary ("&&" unary)*
    unary   := "!" unary | compare
    compare := operand (("==" | "!=") operand)?
    operand := "(" or ")" | reference | text | number | true | false | null | undefined

Each level is a function from tokens to a condition and the tokens behind it.  The number it takes
first bounds how many levels may be open, and every call of a level below uses up one.
-/

namespace Scaffold
namespace Guard

abbrev Parsed := Except GuardFault (Condition × List Token)

def ofWord (word : String) : Except GuardFault Literal :=
  if word = "true" then .ok (.bool true)
  else if word = "false" then .ok (.bool false)
  else if word = "null" then .ok .null
  else if word = "undefined" then .ok .undefined
  else .error (.strangeWord word)

mutual
def parseOr : Nat → List Token → Parsed
  | 0, _ => .error .unfinished
  | bound + 1, ts =>
      match parseAnd bound ts with
      | .error e => .error e
      | .ok (lhs, rest) => parseOrTail bound lhs rest

def parseOrTail : Nat → Condition → List Token → Parsed
  | bound + 1, lhs, .or :: rest =>
      match parseAnd bound rest with
      | .error e => .error e
      | .ok (rhs, rest) => parseOrTail bound (.or lhs rhs) rest
  | _, lhs, ts => .ok (lhs, ts)

def parseAnd : Nat → List Token → Parsed
  | 0, _ => .error .unfinished
  | bound + 1, ts =>
      match parseUnary bound ts with
      | .error e => .error e
      | .ok (lhs, rest) => parseAndTail bound lhs rest

def parseAndTail : Nat → Condition → List Token → Parsed
  | bound + 1, lhs, .and :: rest =>
      match parseUnary bound rest with
      | .error e => .error e
      | .ok (rhs, rest) => parseAndTail bound (.and lhs rhs) rest
  | _, lhs, ts => .ok (lhs, ts)

def parseUnary : Nat → List Token → Parsed
  | 0, _ => .error .unfinished
  | bound + 1, .not :: rest =>
      match parseUnary bound rest with
      | .error e => .error e
      | .ok (inner, rest) => .ok (.not inner, rest)
  | bound + 1, ts => parseCompare bound ts

def parseCompare : Nat → List Token → Parsed
  | 0, _ => .error .unfinished
  | bound + 1, ts =>
      match parseOperand bound ts with
      | .error e => .error e
      | .ok (lhs, .equal :: rest) =>
          match parseOperand bound rest with
          | .error e => .error e
          | .ok (rhs, rest) => .ok (.equal lhs rhs, rest)
      | .ok (lhs, .differ :: rest) =>
          match parseOperand bound rest with
          | .error e => .error e
          | .ok (rhs, rest) => .ok (.differ lhs rhs, rest)
      | .ok (lhs, rest) => .ok (lhs, rest)

def parseOperand : Nat → List Token → Parsed
  | _, [] => .error .unfinished
  | 0, _ :: _ => .error .unfinished
  | bound + 1, .opening :: rest =>
      match parseOr bound rest with
      | .error e => .error e
      | .ok (inner, .closing :: rest) => .ok (inner, rest)
      | .ok (_, _) => .error .unclosedParenthesis
  | _ + 1, .reference scope name :: rest => .ok (.reference scope name, rest)
  | _ + 1, .text s :: rest => .ok (.literal (.text s), rest)
  | _ + 1, .number x :: rest => .ok (.literal (.number x), rest)
  | _ + 1, .word word :: rest =>
      match ofWord word with
      | .error e => .error e
      | .ok value => .ok (.literal value, rest)
  | _ + 1, t :: _ => .error (.strangeToken t)
end

/-- No token sequence opens more levels than this. -/
def levelBound (ts : List Token) : Nat := 8 * (ts.length + 1)

/-- The condition of a whole token sequence. -/
def ofTokens (ts : List Token) : Except GuardFault Condition :=
  if ts.isEmpty then .error .empty
  else
    match parseOr (levelBound ts) ts with
    | .error e => .error e
    | .ok (condition, []) => .ok condition
    | .ok (_, t :: _) => .error (.strangeToken t)

/-- The condition that a text states. -/
def parse (expression : String) : Except GuardFault Condition :=
  match Token.tokenize expression.toList with
  | .error e => .error e
  | .ok ts => ofTokens ts

end Guard
end Scaffold
