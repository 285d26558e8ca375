import ActivityForge.Text.Category

/-!
# Lines and blanks

Trimming a text and splitting it into lines.  `lines` cuts at line feeds, drops one carriage
return before each, and does not count the empty piece after a final line feed.
-/

namespace ActivityForge.Text

/-- The text without blanks at its start. -/
def trimStart (cs : List Char) : List Char := cs.dropWhile isBlank

/-- The text without blanks at its end. -/
def trimEnd (cs : List Char) : List Char := (cs.reverse.dropWhile isBlank).reverse

def trim (cs : List Char) : List Char := trimEnd (trimStart cs)

/-- Whether the text has nothing but blanks. -/
def isAllBlank (cs : List Char) : Bool := cs.all isBlank

/-- The pieces between the separators, at least one. -/
def splitAt (sep : Char) : List Char → List (List Char)
  | [] => [[]]
  | c :: rest =>
    if c = sep then [] :: splitAt sep rest
    else
      match splitAt sep rest with
      | [] => [[c]]
      | piece :: pieces => (c :: piece) :: pieces

/-- The line without a carriage return at its end. -/
def dropReturn (cs : List Char) : List Char :=
  if cs.getLast? = some '\r' then cs.dropLast else cs

/-- The lines from pieces between line feeds: every piece but the last ended in a line feed and
may end in a carriage return; the last is a line only if it is not empty. -/
def linesOfPieces : List (List Char) → List (List Char)
  | [] => []
  | [last] => if last.isEmpty then [] else [last]
  | piece :: pieces => dropReturn piece :: linesOfPieces pieces

def lines (cs : List Char) : List (List Char) := linesOfPieces (splitAt '\n' cs)

end ActivityForge.Text
