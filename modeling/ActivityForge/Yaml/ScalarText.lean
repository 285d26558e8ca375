import ActivityForge.Number.Digits
import ActivityForge.Yaml.Cursor

/-!
# The text of scalars

How the text of a scalar is read in each of its styles: `readPlain`, `readQuoted` and `readBlock`.
Line ends inside a scalar are folded: a single one becomes a space, and of several the first is
dropped.  The readers give nothing if the scalar breaks a rule, and are bounded by the length of
the text.
-/

namespace ActivityForge.Yaml

/-- Blanks and line ends between two parts of a scalar. -/
structure Gap where
  /-- Blanks in front of the first line end, last first. -/
  blanks : List Char
  /-- The first line end. -/
  first : List Char
  /-- Further line ends, last first. -/
  more : List Char
  /-- Whether a line has ended. -/
  isBroken : Bool

namespace Gap

def none : Gap := ⟨[], [], [], false⟩

/-- What a gap becomes inside a scalar. -/
def text (g : Gap) : List Char :=
  if g.isBroken then
    if g.first = ['\n'] then (if g.more.isEmpty then [' '] else g.more.reverse)
    else g.first ++ g.more.reverse
  else g.blanks.reverse

/-- The blanks and line ends at a cursor.  With `tabLimit`, no tab may stand before that column of
a new line. -/
def read (tabLimit : Option Nat) (g : Gap) : Nat → Cursor → Option (Gap × Cursor)
  | 0, _ => Option.none
  | fuel + 1, c =>
    if c.atBlank then
      if g.isBroken && c.isAt '\t' && tabLimit.any (c.column < ·) then Option.none
      else if g.isBroken then read tabLimit g fuel c.skip
      else read tabLimit { g with blanks := c.rest.take 1 ++ g.blanks } fuel c.skip
    else if c.atBreak then
      let (line, next) := c.readBreak
      if g.isBroken then read tabLimit { g with more := line ++ g.more } fuel next
      else read tabLimit { g with first := line, isBroken := true } fuel next
    else some (g, c)

end Gap

/-! ## Plain scalars -/

/-- Whether a plain scalar ends before this character. -/
def endsPlain (inFlow : Bool) (c : Cursor) : Bool :=
  (c.isAt ':' && c.isGapAhead 1) || (inFlow && c.peek?.any fun char => ",[]\x7b\x7d".contains char)

/-- Whether a colon stands where it is not allowed inside a flow collection. -/
def isStrayColon (inFlow : Bool) (c : Cursor) : Bool :=
  inFlow && c.isAt ':' && (c.ahead? 1).any fun char => ",?[]\x7b\x7d".contains char

/-- The characters of a plain scalar up to a gap or its end, added to the reversed `text`. -/
def readPlainRun (inFlow : Bool) (text : List Char) (gap : Gap) :
    Nat → Cursor → Option (List Char × Gap × Cursor)
  | 0, _ => none
  | fuel + 1, c =>
    if c.atGap then some (text, gap, c)
    else if isStrayColon inFlow c then none
    else if endsPlain inFlow c then some (text, gap, c)
    else readPlainRun inFlow (c.rest.take 1 ++ gap.text.reverse ++ text) Gap.none fuel c.skip

/-- A plain scalar with the cursor behind it and whether a line has ended since its last
character.  In a block its further lines have to be indented to `indent`. -/
def readPlain (inFlow : Bool) (indent : Nat) (limit : Nat) (text : List Char) (gap : Gap) :
    Nat → Cursor → Option (String × Bool × Cursor)
  | 0, _ => none
  | fuel + 1, c =>
    let done (text : List Char) (gap : Gap) (c : Cursor) :=
      some (String.ofList text.reverse, gap.isBroken, c)
    if c.atDocumentMark || c.isAt '#' then done text gap c
    else
      match readPlainRun inFlow text gap limit c with
      | none => none
      | some (text, gap, c) =>
        if !(c.atBlank || c.atBreak) then done text gap c
        else
          match gap.read (some indent) limit c with
          | none => none
          | some (gap, c) =>
            if !inFlow && c.column < indent then done text gap c
            else readPlain inFlow indent limit text gap fuel c

/-! ## Quoted scalars -/

/-- The character of a short escape in a double quoted scalar. -/
def escaped? (c : Char) : Option Char :=
  match c with
  | '0' => some '\x00'
  | 'a' => some '\x07'
  | 'b' => some '\x08'
  | 't' => some '\t'
  | '\t' => some '\t'
  | 'n' => some '\n'
  | 'v' => some '\x0b'
  | 'f' => some '\x0c'
  | 'r' => some '\r'
  | 'e' => some '\x1b'
  | ' ' => some ' '
  | '"' => some '"'
  | '/' => some '/'
  | '\\' => some '\\'
  | 'N' => some '\x85'
  | '_' => some '\xa0'
  | 'L' => some '\u2028'
  | 'P' => some '\u2029'
  | _ => none

/-- How many hexadecimal digits follow the letter of an escape. -/
def escapeLength? (c : Char) : Option Nat :=
  match c with
  | 'x' => some 2
  | 'u' => some 4
  | 'U' => some 8
  | _ => none

/-- The character of an escape by number, with the cursor behind it. -/
def readHexEscape (length : Nat) (c : Cursor) : Option (Char × Cursor) := do
  let digits := c.rest.take length
  if digits.length < length then none
  let n ← Number.natOfBase? 16 digits
  if (0xD800 ≤ n && n ≤ 0xDFFF) || n > 0x10FFFF then none
  some (Char.ofNat n, c.skipMany length)

/-- The characters of a quoted scalar up to a gap or the closing quote, added to the reversed
`text`; the flag tells whether the run ended in an escaped line end. -/
def readQuotedRun (single : Bool) (text : List Char) :
    Nat → Cursor → Option (List Char × Bool × Cursor)
  | 0, _ => none
  | fuel + 1, c =>
    match c.rest with
    | [] => some (text, false, c)
    | char :: rest =>
      if c.atGap then some (text, false, c)
      else if single then
        if char = '\x27' then
          if rest.head? = some '\x27' then
            readQuotedRun single ('\x27' :: text) fuel (c.skipMany 2)
          else some (text, false, c)
        else readQuotedRun single (char :: text) fuel c.skip
      else if char = '"' then some (text, false, c)
      else if char = '\\' then
        match rest with
        | [] => none
        | e :: _ =>
          if isBreak e then some (text, true, c.skip.skipBreak)
          else
            match escaped? e with
            | some char => readQuotedRun single (char :: text) fuel (c.skipMany 2)
            | none => do
              let length ← escapeLength? e
              let (char, c) ← readHexEscape length (c.skipMany 2)
              readQuotedRun single (char :: text) fuel c
      else readQuotedRun single (char :: text) fuel c.skip

/-- A quoted scalar behind its opening quote, with the cursor behind the closing one. -/
def readQuoted (single : Bool) (limit : Nat) (text : List Char) :
    Nat → Cursor → Option (String × Cursor)
  | 0, _ => none
  | fuel + 1, c =>
    if c.atDocumentMark || c.atEnd then none
    else
      match readQuotedRun single text limit c with
      | none => none
      | some (text, broken, c) =>
        if c.isAt (if single then '\x27' else '"') then some (String.ofList text.reverse, c.skip)
        else
          match Gap.read none { Gap.none with isBroken := broken } limit c with
          | none => none
          | some (gap, c) => readQuoted single limit (gap.text.reverse ++ text) fuel c

/-! ## Block scalars -/

/-- What happens to the line ends at the end of a block scalar. -/
inductive Chomping
  | strip
  | clip
  | keep
deriving DecidableEq

/-- The indicators behind the mark of a block scalar: chomping and indentation in either order. -/
def readBlockHeader (c : Cursor) : Option (Chomping × Option Nat × Cursor) :=
  let chomping? (c : Cursor) : Option Chomping :=
    if c.isAt '+' then some .keep else if c.isAt '-' then some .strip else none
  let digit? (c : Cursor) : Option Nat :=
    c.peek?.bind fun char => if char.isDigit then some (Number.digitValue char) else none
  match chomping? c with
  | some chomping =>
    match digit? c.skip with
    | some 0 => none
    | some n => some (chomping, some n, c.skip.skip)
    | none => some (chomping, none, c.skip)
  | none =>
    match digit? c with
    | some 0 => none
    | some n =>
      match chomping? c.skip with
      | some chomping => some (chomping, some n, c.skip.skip)
      | none => some (.clip, some n, c.skip)
    | none => some (.clip, none, c)

/-- Skips indentation and collects line ends, last first, up to a line with content.  While the
indentation is not known, any number of spaces is skipped and the widest line is remembered. -/
def readBlockBreaks (indent : Option Nat) (widest : Nat) (breaks : List Char) :
    Nat → Cursor → Option (List Char × Nat × Cursor)
  | 0, _ => none
  | fuel + 1, c =>
    let spaces := (c.rest.takeWhile (· = ' ')).length
    let c := c.skipMany (match indent with
      | some n => min spaces (n - c.column)
      | none => spaces)
    let widest := max widest c.column
    if (indent.all (c.column < ·)) && c.isAt '\t' then none
    else if c.atBreak then
      let (line, next) := c.readBreak
      readBlockBreaks indent widest (line ++ breaks) fuel next
    else some (breaks, widest, c)

/-- Lines of a block scalar.  `text` is what has been read, `lead` the line end before this line
and `breaks` the empty lines since, all last first; `wasBlank` tells whether the line before
began with a blank. -/
def readBlockLines (isLiteral : Bool) (indent limit : Nat) (text lead breaks : List Char)
    (wasBlank : Bool) : Nat → Cursor → Option (List Char × List Char × List Char × Cursor)
  | 0, _ => none
  | fuel + 1, c =>
    if c.column = indent && !c.atEnd then
      let isBlank := c.atBlank
      let joined :=
        if !isLiteral && lead = ['\n'] && !wasBlank && !isBlank then
          if breaks.isEmpty then [' '] else breaks
        else breaks ++ lead
      let line := c.rest.takeWhile (!isBreak ·)
      let (lead, next) := (c.skipMany line.length).readBreak
      match readBlockBreaks (some indent) 0 [] limit next with
      | none => none
      | some (breaks, _, next) =>
        readBlockLines isLiteral indent limit (line.reverse ++ joined ++ text) lead breaks isBlank
          fuel next
    else some (text, lead, breaks, c)

/-- A block scalar behind its mark, inside a block with indentation `parent`. -/
def readBlock (isLiteral : Bool) (parent : Int) (limit : Nat) (c : Cursor) :
    Option (String × Cursor) := do
  let (chomping, increment, c) ← readBlockHeader c
  let c := c.skipWhile isSpaceOrTab
  let c := if c.isAt '#' then c.skipWhile (!isBreak ·) else c
  if !c.atBreakOrEnd then none
  let c := c.skipBreak
  let known := increment.map fun n => if parent ≥ 0 then parent.toNat + n else n
  let (breaks, widest, c) ← readBlockBreaks known 0 [] limit c
  let indent := known.getD (max (max widest (parent + 1).toNat) 1)
  let (text, lead, breaks, c) ← readBlockLines isLiteral indent limit [] [] breaks false limit c
  let tail := match chomping with
    | .strip => []
    | .clip => lead
    | .keep => breaks ++ lead
  some (String.ofList (tail ++ text).reverse, c)

end ActivityForge.Yaml
