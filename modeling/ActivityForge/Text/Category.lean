import ActivityForge.Text.Tables

/-!
# Character categories

The classes of characters that names, comments and literals depend on.  ASCII is decided by
rule, everything else by the tables, so that statements about ASCII text never open a table.
-/

namespace ActivityForge.Text

def isAscii (c : Char) : Bool := c.toNat < 128

/-- A letter or a number in any script. -/
def isAlphanumeric (c : Char) : Bool :=
  if isAscii c then c.isAlphanum else inBounds Table.alphanumeric c.toNat

def isUppercase (c : Char) : Bool :=
  if isAscii c then c.isUpper else inBounds Table.uppercase c.toNat

def isLowercase (c : Char) : Bool :=
  if isAscii c then c.isLower else inBounds Table.lowercase c.toNat

/-- White space: the controls from tab to carriage return, the space, and what the table adds. -/
def isBlank (c : Char) : Bool :=
  if isAscii c then c = ' ' || ('\t' ≤ c && c ≤ '\r') else inBounds Table.blank c.toNat

def isCased (c : Char) : Bool :=
  if isAscii c then c.isAlpha else inBounds Table.cased c.toNat

/-- Characters that are skipped when a word boundary is looked for. -/
def isCaseIgnorable (c : Char) : Bool :=
  if isAscii c then ['\x27', '.', ':', '^', '\x60'].contains c
  else inBounds Table.caseIgnorable c.toNat

/-- Characters that are shown as themselves: no controls, separators or unassigned points, the
space apart. -/
def isPrintable (c : Char) : Bool :=
  if isAscii c then ' ' ≤ c && c ≤ '~' else !inBounds Table.unprintable c.toNat

/-- Characters that attach to the one before them. -/
def extendsGrapheme (c : Char) : Bool :=
  !isAscii c && inBounds Table.graphemeExtend c.toNat

end ActivityForge.Text
