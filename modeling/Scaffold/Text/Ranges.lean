import Scaffold.Text.Blank

/-!
# Ranges of code points

A set of characters as a list of ranges.  The tables of this library write ranges as hexadecimal
code points: `41-5A` is a range, `AA` a single code point, `4B=6B=212A` a group of code points.
-/

namespace Scaffold
namespace Text

abbrev Ranges := List (Nat × Nat)

def readHex (cs : List Char) : Nat :=
  cs.foldl (fun n c => n * 16 + (if c.toNat < 65 then c.toNat - 48 else c.toNat - 55)) 0

/-- The words of a table, which stand apart by spaces and line ends. -/
def tableWords (table : String) : List (List Char) :=
  (pieces (fun c => c == ' ' || c == '\n') table.toList).filter (!·.isEmpty)

def Ranges.read (table : String) : Ranges :=
  (tableWords table).map fun word =>
    match pieces (· == '-') word with
    | [first, last] => (readHex first, readHex last)
    | _ => (readHex word, readHex word)

def readGroups (table : String) : List (List Nat) :=
  (tableWords table).map fun word => (pieces (· == '=') word).map readHex

def Ranges.mem (ranges : Ranges) (c : Char) : Bool :=
  ranges.any fun range => range.1 ≤ c.toNat && c.toNat ≤ range.2

end Text
end Scaffold
