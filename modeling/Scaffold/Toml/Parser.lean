import Scaffold.Toml.Scalar

/-!
# Reading TOML

A document is a list of lines: a key with a value, the header of a table, the header of an item of
an array of tables, or nothing.  No key is given twice.
-/

namespace Scaffold
namespace Toml

def isBareChar (c : Char) : Bool := c.isAlphanum || c == '-' || c == '_'

/-- A bare key, or a string on one line. -/
def readKeyPart (cs : List Char) : Option (String × List Char) :=
  match cs with
  | '"' :: rest => readBasic [] rest
  | '\'' :: rest => readLiteral [] rest
  | _ =>
      let word := cs.takeWhile isBareChar
      if word.isEmpty then none else some (String.ofList word, cs.dropWhile isBareChar)

/-- Parts with points between them; blanks around them do not count. -/
def readKey : Nat → List Char → Option (List String × List Char)
  | 0, _ => none
  | bound + 1, cs => do
      let (part, rest) ← readKeyPart (skipBlanks cs)
      match skipBlanks rest with
      | '.' :: rest => do
          let (parts, rest) ← readKey bound rest
          return (part :: parts, rest)
      | rest => return ([part], rest)

/-- The text behind a comment, if one starts here. -/
def skipComment (cs : List Char) : Option (List Char) :=
  match cs with
  | '#' :: rest =>
      let comment := rest.takeWhile (· != '\n')
      let body := if comment.getLast? = some '\r' then comment.dropLast else comment
      if body.any isControl then none else some (rest.dropWhile (· != '\n'))
  | _ => some cs

/-- Skips blanks, comments and ends of lines. -/
def skipSpace : Nat → List Char → Option (List Char)
  | 0, cs => some cs
  | bound + 1, cs => do
      let rest ← skipComment (skipBlanks cs)
      match lineEnd? rest with
      | some rest => skipSpace bound rest
      | none => some rest

def skipAll (cs : List Char) : Option (List Char) := skipSpace (cs.length + 1) cs

mutual
/-- A value; the number bounds how many values and items may follow one another. -/
def readValue : Nat → List Char → Option (Toml × List Char)
  | 0, _ => none
  | bound + 1, cs =>
      match cs with
      | '[' :: rest =>
          (readItems bound [] rest).map fun (items, rest) => (.array items, rest)
      | '{' :: rest =>
          (readFields bound [] rest).map fun (entries, rest) =>
            (.table (Draft.valueAll entries), rest)
      | _ => readScalar cs

/-- The items of an array, up to the closing bracket. -/
def readItems : Nat → List Toml → List Char → Option (List Toml × List Char)
  | 0, _, _ => none
  | bound + 1, done, cs => do
      match ← skipAll cs with
      | ']' :: rest => return (done.reverse, rest)
      | rest => do
          let (item, rest) ← readValue bound rest
          match ← skipAll rest with
          | ',' :: rest => readItems bound (item :: done) rest
          | ']' :: rest => return ((item :: done).reverse, rest)
          | _ => none

/-- The fields of a table in braces. -/
def readFields : Nat → Entries → List Char → Option (Entries × List Char)
  | 0, _, _ => none
  | bound + 1, done, cs => do
      match ← skipAll cs with
      | '}' :: rest => return (done, rest)
      | rest => do
          let (key, rest) ← readKey (rest.length + 1) rest
          let rest ← expect '=' rest
          let (value, rest) ← readValue bound (skipBlanks rest)
          let done ← Entries.assign value key done
          match ← skipAll rest with
          | ',' :: rest => readFields bound done rest
          | '}' :: rest => return (done, rest)
          | _ => none
end

/-- The text behind the end of the line; nothing but a comment may stand in front of it. -/
def endLine (cs : List Char) : Option (List Char) := do
  let rest ← skipComment (skipBlanks cs)
  if rest.isEmpty then return [] else lineEnd? rest

/-- The document as far as it has been read, and the table that lines belong to. -/
structure Progress where
  root : Entries
  current : List String

/-- Reads a line that is not empty, up to the end of it. -/
def readLine (p : Progress) (cs : List Char) : Option (Progress × List Char) := do
  let named (declare : String → Entries → Option Entries) (key : List String)
      (rest : List Char) : Option (Progress × List Char) := do
    let last ← key.getLast?
    let root ← Entries.inside (declare last) key.dropLast p.root
    return (⟨root, key⟩, rest)
  match cs with
  | '[' :: '[' :: rest => do
      let (key, rest) ← readKey (rest.length + 1) rest
      let rest ← expect ']' rest
      let rest ← expect ']' rest
      named Entries.declareItem key rest
  | '[' :: rest => do
      let (key, rest) ← readKey (rest.length + 1) rest
      let rest ← expect ']' rest
      named Entries.declare key rest
  | _ => do
      let (key, rest) ← readKey (cs.length + 1) cs
      let rest ← expect '=' rest
      let (value, rest) ← readValue (2 * rest.length + 2) (skipBlanks rest)
      let root ← Entries.inside (Entries.assign value key) p.current p.root
      return (⟨root, p.current⟩, rest)

def readLinesOf : Nat → Progress → List Char → Option Entries
  | 0, _, _ => none
  | bound + 1, p, cs => do
      let rest ← skipAll cs
      if rest.isEmpty then return p.root
      let (p, rest) ← readLine p rest
      readLinesOf bound p (← endLine rest)

/-- A mark of byte order at the start does not count. -/
def withoutMark : List Char → List Char
  | '\uFEFF' :: rest => rest
  | cs => cs

/-- The entries of the document that a text states; nothing if it states none. -/
def parse (text : String) : Option (List (String × Toml)) :=
  let cs := withoutMark text.toList
  (readLinesOf (cs.length + 1) ⟨[], []⟩ cs).map Draft.valueAll

end Toml
end Scaffold
