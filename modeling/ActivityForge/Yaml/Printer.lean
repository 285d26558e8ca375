import ActivityForge.Json.Value
import ActivityForge.Yaml.Cursor
import ActivityForge.Yaml.Scalar

/-!
# Writing YAML

`Yaml.print` writes a value as a block: one member or item a line, lists at the column of their
key.  A text stands plain if it reads back as the same text, else in single quotes; in double
quotes if it has characters that need escapes, and as a literal block if it has line feeds.
-/

namespace ActivityForge.Yaml

/-! ## Texts -/

/-- Characters that can stand for themselves: no controls, byte order marks or noncharacters. -/
def isPlainChar (c : Char) : Bool :=
  c = '\n' || (' ' ≤ c && c ≤ '~')
    || ('\xa0' ≤ c && c ≠ '\ufeff' && c ≠ '\ufffe' && c ≠ '\uffff')

/-- Whether a character of the first kind stands right before one of the second. -/
def hasAdjacent (p q : Char → Bool) : List Char → Bool
  | a :: b :: rest => (p a && q b) || hasAdjacent p q (b :: rest)
  | _ => false

def isSpace (c : Char) : Bool := c = ' '

/-- Whether a text needs the escapes of double quotes. -/
def needsEscapes (cs : List Char) : Bool :=
  !cs.all isPlainChar || hasAdjacent isSpace isBreak cs

/-- Whether a gap or the end of the text comes next. -/
def gapNext (cs : List Char) : Bool := cs.head?.all fun c => isSpaceOrTab c || isBreak c

/-- Whether a text begins in a way that is special syntax. -/
def startsSpecial (cs : List Char) : Bool :=
  "---".toList.isPrefixOf cs || "...".toList.isPrefixOf cs ||
    match cs with
    | [] => true
    | c :: rest =>
      "#,[]\x7b\x7d&*!|>\x27\"%@\x60".contains c || ("?:-".contains c && gapNext rest)

/-- Whether special syntax comes after the start of a text: a colon in front of a gap, or a comment
behind one. -/
def hasSpecial (cs : List Char) : Bool :=
  match cs with
  | a :: b :: rest =>
    (b = ':' && gapNext rest) || (b = '#' && (isSpaceOrTab a || isBreak a)) || hasSpecial (b :: rest)
  | _ => false

/-- Whether a text may stand plain as far as the syntax goes. -/
def fitsPlain (cs : List Char) : Bool :=
  let edge? (c : Option Char) : Bool := c.any fun c => isSpace c || isBreak c
  !(needsEscapes cs || cs.any isBreak || edge? cs.head? || edge? cs.getLast? || startsSpecial cs
    || hasSpecial cs)

/-- Whether a plain scalar of this text reads as the text itself. -/
def readsAsText (s : String) : Bool :=
  match plainAtom s with
  | .text _ => !isPadded s.toList
  | _ => false

/-- The style in which a text is written. -/
def styleOf (s : String) : Style :=
  let cs := s.toList
  if cs.contains '\n' then
    if needsEscapes cs || cs.getLast? = some ' ' then .doubleQuoted else .literal
  else if readsAsText s && fitsPlain cs then .plain
  else if needsEscapes cs || hasAdjacent isBreak isSpace cs then .doubleQuoted
  else .singleQuoted

def spaces (n : Nat) : List Char := List.replicate n ' '

/-- Characters as they are, with `indent` spaces in front of what follows a line end;
`atStart` tells whether a line has just ended. -/
def writeLines (indent : Nat) (atStart : Bool) : List Char → List Char
  | [] => []
  | c :: cs =>
    if isBreak c then c :: writeLines indent true cs
    else (if atStart then spaces indent else []) ++ c :: writeLines indent false cs

/-- The characters between single quotes, where a quote is written twice. -/
def writeSingleQuoted (indent : Nat) (cs : List Char) : List Char :=
  let doubled := cs.flatMap fun c => if c = '\x27' then [c, c] else [c]
  let tail := if cs.getLast?.any isBreak then spaces indent else []
  '\x27' :: writeLines indent false doubled ++ tail ++ ['\x27']

/-- A number in hexadecimal digits of a fixed length. -/
def hexDigits (length n : Nat) : List Char :=
  let digits := (Nat.toDigits 16 n).map Char.toUpper
  List.replicate (length - digits.length) '0' ++ digits

/-- One character between double quotes. -/
def writeEscaped (c : Char) : List Char :=
  if c = '"' then ['\\', '"']
  else if c = '\\' then ['\\', '\\']
  else if isPlainChar c && !isBreak c then [c]
  else if c = '\x00' then ['\\', '0']
  else if c = '\x07' then ['\\', 'a']
  else if c = '\x08' then ['\\', 'b']
  else if c = '\t' then ['\\', 't']
  else if c = '\n' then ['\\', 'n']
  else if c = '\x0b' then ['\\', 'v']
  else if c = '\x0c' then ['\\', 'f']
  else if c = '\r' then ['\\', 'r']
  else if c = '\x1b' then ['\\', 'e']
  else if c = '\x85' then ['\\', 'N']
  else if c = '\u2028' then ['\\', 'L']
  else if c = '\u2029' then ['\\', 'P']
  else if c.toNat ≤ 0xff then '\\' :: 'x' :: hexDigits 2 c.toNat
  else if c.toNat ≤ 0xffff then '\\' :: 'u' :: hexDigits 4 c.toNat
  else '\\' :: 'U' :: hexDigits 8 c.toNat

/-- What stands behind the bar of a literal block: the indentation if the text does not show it, and
how its end is kept. -/
def literalHints (cs : List Char) : List Char :=
  let indentation := if cs.head?.any fun c => isSpace c || isBreak c then ['2'] else []
  let last := cs.reverse
  let ending :=
    if !last.head?.any isBreak then ['-']
    else if last.tail.head?.all isBreak then ['+'] else []
  indentation ++ ending

/-- A literal block.  The line feed that ends it is left to what follows. -/
def writeLiteral (indent : Nat) (cs : List Char) : List Char :=
  let body := writeLines indent true cs
  '|' :: literalHints cs ++ '\n' :: (if body.getLast? = some '\n' then body.dropLast else body)

/-- A text in its style; further lines are indented by `indent` spaces. -/
def writeText (indent : Nat) (s : String) : List Char :=
  let cs := s.toList
  match styleOf s with
  | .plain => cs
  | .singleQuoted => writeSingleQuoted indent cs
  | .literal => writeLiteral indent cs
  | _ => '"' :: cs.flatMap writeEscaped ++ ['"']

/-! ## Values -/

open Json (Value)

/-- A new line at a column. -/
def lineAt (column : Nat) : List Char := '\n' :: spaces column

mutual

/-- What follows a mark at a column: the value on the same line, or the members and items of a
collection on lines of their own.  `isItem` tells whether the mark is that of an item. -/
def writeBehind (column : Nat) (isItem : Bool) : Value → List Char
  | .null => " null".toList
  | .bool b => (if b then " true" else " false").toList
  | .number n => ' ' :: n.text.toList
  | .text s => ' ' :: writeText (column + 2) s
  | .list [] => " []".toList
  | .object [] => " \x7b\x7d".toList
  | .list (item :: items) =>
    let inner := if isItem then column + 2 else column
    (if isItem then [' '] else lineAt inner) ++ writeItems inner (item :: items)
  | .object (member :: members) =>
    (if isItem then [' '] else lineAt (column + 2)) ++ writeMembers (column + 2) (member :: members)

def writeItems (column : Nat) : List Value → List Char
  | [] => []
  | [item] => '-' :: writeBehind column true item
  | item :: items => '-' :: writeBehind column true item ++ lineAt column ++ writeItems column items

def writeMembers (column : Nat) : List (String × Value) → List Char
  | [] => []
  | [(key, value)] => writeText (column + 2) key ++ ':' :: writeBehind column false value
  | (key, value) :: members =>
    writeText (column + 2) key ++ ':' :: writeBehind column false value ++ lineAt column
      ++ writeMembers column members

end

/-- The members of an object as a block. -/
def print (members : List (String × Value)) : String :=
  String.ofList (writeMembers 0 members ++ ['\n'])

end ActivityForge.Yaml
