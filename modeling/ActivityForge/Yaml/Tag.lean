import ActivityForge.Yaml.ScalarText
import ActivityForge.Yaml.Token

/-!
# Tags, anchors and directives

The marks in front of values and documents: `readTag`, `readName` and `readDirective` turn them
into tokens.  Tags may write characters as the octets of their encoding, each behind a percent
sign.
-/

namespace ActivityForge.Yaml

/-! ## Tags -/

/-- Characters of the text of a tag; more are allowed in tags written out in full. -/
def isTagChar (full : Bool) (c : Char) : Bool :=
  isWordChar c || ";/?:@&=+$.%!~*()\x27".contains c || (full && ",[]".contains c)

/-- An octet behind a percent sign. -/
def readOctet (c : Cursor) : Option (Nat × Cursor) :=
  match c.rest with
  | '%' :: a :: b :: _ => (Number.natOfBase? 16 [a, b]).map fun n => (n, c.skipMany 3)
  | _ => none

/-- Octets that continue a character whose first bits are `n`. -/
def readMoreOctets (n : Nat) : Nat → Cursor → Option (Nat × Cursor)
  | 0, c => some (n, c)
  | count + 1, c => do
    let (octet, c) ← readOctet c
    if octet / 64 ≠ 2 then none
    readMoreOctets (n * 64 + octet % 64) count c

/-- A character written as octets. -/
def readOctets (c : Cursor) : Option (Char × Cursor) := do
  let (octet, c) ← readOctet c
  let (n, c) ←
    if octet < 0x80 then some (octet, c)
    else if octet / 32 = 6 then readMoreOctets (octet % 32) 1 c
    else if octet / 16 = 14 then readMoreOctets (octet % 16) 2 c
    else if octet / 8 = 30 then readMoreOctets (octet % 8) 3 c
    else none
  some (Char.ofNat n, c)

/-- The text of a tag, added to the reversed `text`. -/
def readTagText (full : Bool) (text : List Char) : Nat → Cursor → Option (List Char × Cursor)
  | 0, c => some (text, c)
  | fuel + 1, c =>
    match c.peek? with
    | none => some (text, c)
    | some char =>
      if !isTagChar full char then some (text, c)
      else if char = '%' then do
        let (char, c) ← readOctets c
        readTagText full (char :: text) fuel c
      else readTagText full (char :: text) fuel c.skip

/-- The text of a tag that may not be empty. -/
def readFullTagText (full : Bool) (c : Cursor) : Option (String × Cursor) := do
  let (text, c) ← readTagText full [] c.rest.length c
  if text.isEmpty then none
  some (String.ofList text.reverse, c)

/-- An exclamation mark, a word and perhaps another exclamation mark. -/
def readTagHandle (c : Cursor) : Option (List Char × Cursor) := do
  if !c.isAt '!' then none
  let word := c.skip.rest.takeWhile isWordChar
  let behind := c.skip.skipMany word.length
  if behind.isAt '!' then some ('!' :: word ++ ['!'], behind.skip)
  else some ('!' :: word, behind)

/-- Whether a handle names a directive, so that it is followed by the rest of the tag. -/
def isNamedHandle (handle : List Char) : Bool := handle.length > 1 && handle.getLast? = some '!'

/-- A tag in any of its forms. -/
def readTagForm (c : Cursor) : Option (Token × Cursor) := do
  if c.ahead? 1 = some '<' then
    let (text, c) ← readFullTagText true (c.skipMany 2)
    if !c.isAt '>' then none
    some (.tag "" text, c.skip)
  else
    let (handle, c) ← readTagHandle c
    if isNamedHandle handle then
      let (text, c) ← readFullTagText false c
      some (.tag (String.ofList handle) text, c)
    else
      let (text, c) ← readTagText false (handle.drop 1).reverse c.rest.length c
      some (if text.isEmpty then .tag "" "!" else .tag "!" (String.ofList text.reverse), c)

/-- A tag, which has to be followed by a gap, or in a flow collection by a comma. -/
def readTag (inFlow : Bool) (c : Cursor) : Option (Token × Cursor) := do
  let (token, c) ← readTagForm c
  if c.atGap || (inFlow && c.isAt ',') then some (token, c) else none

/-! ## Anchors -/

/-- The name of an anchor or alias behind its mark. -/
def readName (c : Cursor) : Option (String × Cursor) :=
  let word := c.rest.takeWhile isWordChar
  let behind := c.skipMany word.length
  if !word.isEmpty && (behind.atGap || behind.peek?.any fun char => "?:,]\x7d%@\x60".contains char)
  then some (String.ofList word, behind) else none

/-! ## Directives -/

/-- A number of at most nine digits. -/
def readVersionNumber (c : Cursor) : Option (Nat × Cursor) :=
  let digits := c.rest.takeWhile Char.isDigit
  if digits.isEmpty || digits.length > 9 then none
  else some (Number.natOfDigits digits, c.skipMany digits.length)

def readVersion (c : Cursor) : Option (Token × Cursor) := do
  let (major, c) ← readVersionNumber (c.skipWhile isSpaceOrTab)
  if !c.isAt '.' then none
  let (minor, c) ← readVersionNumber c.skip
  some (.versionDirective major minor, c)

def readTagDirective (c : Cursor) : Option (Token × Cursor) := do
  let (handle, c) ← readTagHandle (c.skipWhile isSpaceOrTab)
  if !(handle = ['!'] || isNamedHandle handle) then none
  if !c.atBlank then none
  let (text, c) ← readFullTagText true (c.skipWhile isSpaceOrTab)
  if !c.atGap then none
  some (.tagDirective (String.ofList handle) text, c)

/-- A directive with the end of its line. -/
def readDirective (c : Cursor) : Option (Token × Cursor) := do
  let word := c.skip.rest.takeWhile isWordChar
  let behind := c.skip.skipMany word.length
  if !behind.atGap then none
  let (token, c) ←
    if word = "YAML".toList then readVersion behind
    else if word = "TAG".toList then readTagDirective behind
    else none
  let c := c.skipWhile isSpaceOrTab
  let c := if c.isAt '#' then c.skipWhile (!isBreak ·) else c
  if !c.atBreakOrEnd then none
  some (token, c.skipBreak)

end ActivityForge.Yaml
