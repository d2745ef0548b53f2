import Scaffold.Text.CaseGroups
import Scaffold.Text.Category
import Scaffold.Text.Property
import Scaffold.Text.Script

/-!
# Sets of characters in patterns

A set is an expression over ranges and tables.  Its members are found by walking the expression, so
the set operations are those of logic.
-/

namespace Scaffold

inductive CharSet where
  | empty
  | range (first last : Nat)
  | table (ranges : Text.Ranges)
  | union (a b : CharSet)
  | inter (a b : CharSet)
  | diff (a b : CharSet)
  | symmDiff (a b : CharSet)
  | complement (a : CharSet)
  /-- All characters that differ from a member in case alone. -/
  | caseless (a : CharSet)
  /-- The same for the letters of ASCII. -/
  | asciiCaseless (a : CharSet)
deriving Repr

namespace CharSet

def swapAsciiCase (c : Char) : Char := if c.isUpper then c.toLower else c.toUpper

def mem : CharSet → Char → Bool
  | .empty, _ => false
  | .range first last, c => first ≤ c.toNat && c.toNat ≤ last
  | .table ranges, c => Text.Ranges.mem ranges c
  | .union a b, c => mem a c || mem b c
  | .inter a b, c => mem a c && mem b c
  | .diff a b, c => mem a c && !mem b c
  | .symmDiff a b, c => mem a c != mem b c
  | .complement a, c => !mem a c
  | .caseless a, c => (Text.caseVariants c).any (mem a)
  | .asciiCaseless a, c => mem a c || mem a (swapAsciiCase c)

def single (c : Char) : CharSet := .range c.toNat c.toNat

def ofTables : List Text.Ranges → CharSet
  | [] => .empty
  | [ranges] => .table ranges
  | ranges :: rest => .union (.table ranges) (ofTables rest)

def any : CharSet := .range 0 0x10FFFF

/-- Whether the set leaves out all code points of one byte beyond ASCII. -/
def isAscii (s : CharSet) : Bool :=
  (List.range 128).all fun n => !s.mem (Char.ofNat (128 + n))

open Text in
/-- Letters, marks, digits, connectors and joiners: the characters of words. -/
def word : CharSet :=
  .union (.table Property.alphabetic)
    (ofTables
      [Category.nonspacingMark, Category.spacingMark, Category.enclosingMark,
        Category.decimalNumber, Category.connectorPunctuation, Property.joinControl])

def digit : CharSet := .table Text.Category.decimalNumber

def space : CharSet := .table Text.Property.whiteSpace

def asciiWord : CharSet := .table [(48, 57), (65, 90), (95, 95), (97, 122)]

def asciiDigit : CharSet := .range 48 57

def asciiSpace : CharSet := .table [(9, 13), (32, 32)]

/-- The named sets of ASCII characters. -/
def asciiClasses : List (String × CharSet) :=
  [ ("alnum", .table [(48, 57), (65, 90), (97, 122)]),
    ("alpha", .table [(65, 90), (97, 122)]),
    ("ascii", .range 0 127),
    ("blank", .table [(9, 9), (32, 32)]),
    ("cntrl", .table [(0, 31), (127, 127)]),
    ("digit", .range 48 57),
    ("graph", .range 33 126),
    ("lower", .range 97 122),
    ("print", .range 32 126),
    ("punct", .table [(33, 47), (58, 64), (91, 96), (123, 126)]),
    ("space", .table [(9, 13), (32, 32)]),
    ("upper", .range 65 90),
    ("word", asciiWord),
    ("xdigit", .table [(48, 57), (65, 70), (97, 102)]) ]

open Text.Category in
/-- The general categories under their short and long names, in lower case without underscores. -/
def categories : List (List String × List Text.Ranges) :=
  [ (["lu", "uppercaseletter"], [uppercaseLetter]),
    (["ll", "lowercaseletter"], [lowercaseLetter]),
    (["lt", "titlecaseletter"], [titlecaseLetter]),
    (["lc", "casedletter"], [uppercaseLetter, lowercaseLetter, titlecaseLetter]),
    (["lm", "modifierletter"], [modifierLetter]),
    (["lo", "otherletter"], [otherLetter]),
    (["l", "letter"],
      [uppercaseLetter, lowercaseLetter, titlecaseLetter, modifierLetter, otherLetter]),
    (["mn", "nonspacingmark"], [nonspacingMark]),
    (["mc", "spacingmark"], [spacingMark]),
    (["me", "enclosingmark"], [enclosingMark]),
    (["m", "mark", "combiningmark"], [nonspacingMark, spacingMark, enclosingMark]),
    (["nd", "decimalnumber", "digit"], [decimalNumber]),
    (["nl", "letternumber"], [letterNumber]),
    (["no", "othernumber"], [otherNumber]),
    (["n", "number"], [decimalNumber, letterNumber, otherNumber]),
    (["pc", "connectorpunctuation"], [connectorPunctuation]),
    (["pd", "dashpunctuation"], [dashPunctuation]),
    (["ps", "openpunctuation"], [openPunctuation]),
    (["pe", "closepunctuation"], [closePunctuation]),
    (["pi", "initialpunctuation"], [initialPunctuation]),
    (["pf", "finalpunctuation"], [finalPunctuation]),
    (["po", "otherpunctuation"], [otherPunctuation]),
    (["p", "punctuation", "punct"],
      [connectorPunctuation, dashPunctuation, openPunctuation, closePunctuation,
        initialPunctuation, finalPunctuation, otherPunctuation]),
    (["sm", "mathsymbol"], [mathSymbol]),
    (["sc", "currencysymbol"], [currencySymbol]),
    (["sk", "modifiersymbol"], [modifierSymbol]),
    (["so", "othersymbol"], [otherSymbol]),
    (["s", "symbol"], [mathSymbol, currencySymbol, modifierSymbol, otherSymbol]),
    (["zs", "spaceseparator"], [spaceSeparator]),
    (["zl", "lineseparator"], [lineSeparator]),
    (["zp", "paragraphseparator"], [paragraphSeparator]),
    (["z", "separator"], [spaceSeparator, lineSeparator, paragraphSeparator]),
    (["cc", "control", "cntrl"], [control]),
    (["cf", "format"], [format]),
    (["co", "privateuse"], [privateUse]),
    (["cn", "unassigned"], [unassigned]),
    (["cs", "surrogate"], []),
    (["c", "other"], [control, format, privateUse, unassigned]),
    (["any"], [[(0, 0x10FFFF)]]),
    (["ascii"], [[(0, 127)]]) ]

open Text.Property in
/-- Properties that a character has or has not, under their names. -/
def properties : List (List String × Text.Ranges) :=
  [ (["alphabetic", "alpha"], alphabetic),
    (["lowercase", "lower"], lowercase),
    (["uppercase", "upper"], uppercase),
    (["whitespace", "wspace", "space"], whiteSpace),
    (["graphemeextend", "grext"], graphemeExtend),
    (["joincontrol", "joinc"], joinControl),
    (["math"], math),
    (["hexdigit", "hex"], hexDigits),
    (["asciihexdigit", "ahex"], asciiHexDigits),
    (["cased"], cased),
    (["dash"], dash),
    (["diacritic", "dia"], diacritic),
    (["ideographic", "ideo"], ideographic),
    (["emoji"], emoji),
    (["emojipresentation", "epres"], emojiPresentation),
    (["extendedpictographic", "extpict"], extendedPictographic) ]

/-- Names are compared by their characters of ASCII in lower case, without blanks, hyphens,
underscores and a leading `is`.  One name would turn into another by that and is kept. -/
def normalName (cs : List Char) : String :=
  let kept (cs : List Char) :=
    (cs.filter fun c => c.toNat < 128 && c != ' ' && c != '-' && c != '_').map Char.toLower
  match cs with
  | i :: s :: rest =>
      if i.toLower = 'i' ∧ s.toLower = 's' then
        if kept rest = ['c'] then "isc" else String.ofList (kept rest)
      else String.ofList (kept cs)
  | _ => String.ofList (kept cs)

def category? (name : String) : Option CharSet :=
  if name = "assigned" then some (.complement (.table Text.Category.unassigned))
  else (categories.find? fun entry => entry.1.contains name).map fun entry => ofTables entry.2

def script? (name : String) : Option CharSet :=
  (Text.scripts.find? fun entry => entry.1.contains name).map fun entry => .table entry.2

def property? (name : String) : Option CharSet :=
  (properties.find? fun entry => entry.1.contains name).map fun entry => .table entry.2

/-- A property comes before a category, and a category before a script. -/
def named? (name : String) : Option CharSet :=
  (if ["cf", "sc", "lc"].contains name then none else property? name) <|> category? name <|>
    script? name

/-- A set named by a kind and a value of it. -/
def ofKind? (kind value : String) : Option CharSet :=
  if kind = "generalcategory" || kind = "gc" then category? value
  else if kind = "script" || kind = "sc" || kind = "scriptextensions" || kind = "scx" then
    script? value
  else none

/-- An estimate of the room that the set takes in a compiled pattern. -/
def weight : CharSet → Nat
  | .empty => 32
  | .range first last => if first = last then 40 else 200
  | .table ranges => 200 + 60 * ranges.length
  | .union a b => weight a + weight b
  | .inter a b => weight a + weight b
  | .diff a b => weight a + weight b
  | .symmDiff a b => weight a + weight b
  | .complement a => 300 + weight a
  | .caseless a => weight a
  | .asciiCaseless a => weight a

end CharSet
end Scaffold
