/-!
# Cursors

A place in a YAML text: what is left of it, and how far it is from the start of the text and of
its line.
-/

namespace ActivityForge.Yaml

structure Cursor where
  rest : List Char
  index : Nat
  line : Nat
  column : Nat

/-- Characters that end a line. -/
def isBreak (c : Char) : Bool :=
  c = '\r' || c = '\n' || c = '\x85' || c = '\u2028' || c = '\u2029'

def isSpaceOrTab (c : Char) : Bool := c = ' ' || c = '\t'

/-- Characters of names of anchors, directives and tag handles. -/
def isWordChar (c : Char) : Bool := c.isAlphanum || c = '_' || c = '-'

namespace Cursor

def ofText (cs : List Char) : Cursor := ⟨cs, 0, 0, 0⟩

def peek? (c : Cursor) : Option Char := c.rest.head?

/-- The character `n` places further on. -/
def ahead? (c : Cursor) (n : Nat) : Option Char := c.rest[n]?

def isAt (c : Cursor) (char : Char) : Bool := c.peek? = some char

def atEnd (c : Cursor) : Bool := c.rest.isEmpty

def atBreak (c : Cursor) : Bool := c.peek?.any isBreak

def atBlank (c : Cursor) : Bool := c.peek?.any isSpaceOrTab

/-- Whether a blank, a line end or the end of the text is `n` places further on. -/
def isGapAhead (c : Cursor) (n : Nat) : Bool :=
  match c.ahead? n with
  | none => true
  | some char => isSpaceOrTab char || isBreak char

def atGap (c : Cursor) : Bool := c.isGapAhead 0

def atBreakOrEnd (c : Cursor) : Bool := c.atEnd || c.atBreak

/-- One character further on, on the same line. -/
def skip (c : Cursor) : Cursor := ⟨c.rest.drop 1, c.index + 1, c.line, c.column + 1⟩

def skipMany (c : Cursor) (n : Nat) : Cursor := ⟨c.rest.drop n, c.index + n, c.line, c.column + n⟩

/-- Behind the characters for which `p` holds. -/
def skipWhile (c : Cursor) (p : Char → Bool) : Cursor := c.skipMany (c.rest.takeWhile p).length

/-- What a line end stands for, and the start of the next line. -/
def readBreak (c : Cursor) : List Char × Cursor :=
  match c.rest with
  | '\r' :: '\n' :: rest => (['\n'], ⟨rest, c.index + 2, c.line + 1, 0⟩)
  | char :: rest =>
    if isBreak char then
      ([if char = '\u2028' || char = '\u2029' then char else '\n'],
        ⟨rest, c.index + 1, c.line + 1, 0⟩)
    else ([], c)
  | [] => ([], c)

def skipBreak (c : Cursor) : Cursor := c.readBreak.2

/-- Whether three equal marks stand at the start of a line, with a gap behind them. -/
def atMarks (c : Cursor) (char : Char) : Bool :=
  c.column = 0 && c.ahead? 0 = some char && c.ahead? 1 = some char && c.ahead? 2 = some char
    && c.isGapAhead 3

/-- Whether the start or the end of a document is marked here. -/
def atDocumentMark (c : Cursor) : Bool := c.atMarks '-' || c.atMarks '.'

end Cursor

end ActivityForge.Yaml
