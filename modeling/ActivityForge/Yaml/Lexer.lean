import ActivityForge.Yaml.Tag

/-!
# Lexer

`tokens` splits a YAML text into tokens, as far as it keeps the rules.

A mapping key is known by the colon behind it, so a token where a key may begin is held back in a
queue until the colon has been found or cannot come any more: a key without `?` ends on its line
and within 1024 characters.
-/

namespace ActivityForge.Yaml

/-- A place where a mapping key may begin. -/
structure KeyPlace where
  /-- In how many flow collections it is. -/
  depth : Nat
  /-- How many tokens are in front of it. -/
  number : Nat
  index : Nat
  line : Nat
  column : Nat
  /-- Whether nothing but a key can stand there. -/
  isRequired : Bool

structure Lexer where
  cursor : Cursor
  /-- A bound for the steps in the text. -/
  limit : Nat
  /-- The column of the innermost block collection, -1 outside of all. -/
  indent : Int
  /-- The columns of the blocks around it. -/
  outerIndents : List Int
  /-- Whether a key may begin at the next token. -/
  mayStartKey : Bool
  /-- How many flow collections are open. -/
  depth : Nat
  /-- Where keys may have begun, at most one in each collection and the innermost first. -/
  places : List KeyPlace
  /-- Tokens that have been found and not been handed out, in order. -/
  queue : List Token
  /-- How many tokens have been handed out. -/
  taken : Nat

namespace Lexer

def ofText (text : List Char) : Lexer where
  cursor := .ofText text
  limit := text.length + 1
  indent := -1
  outerIndents := []
  mayStartKey := true
  depth := 0
  places := []
  queue := []
  taken := 0

def inFlow (x : Lexer) : Bool := x.depth > 0

/-- How many tokens have been found. -/
def count (x : Lexer) : Nat := x.taken + x.queue.length

def push (x : Lexer) (token : Token) : Lexer := { x with queue := x.queue ++ [token] }

/-- Puts a token in front of the one at `number`. -/
def insert (x : Lexer) (number : Nat) (token : Token) : Lexer :=
  { x with queue := x.queue.insertIdx (number - x.taken) token }

/-! ## Places of keys -/

/-- Whether a key that began at a place cannot go on. -/
def isStale (x : Lexer) (place : KeyPlace) : Bool :=
  place.line < x.cursor.line || place.index + 1024 < x.cursor.index

/-- Gives up the places where a key cannot go on. -/
def dropStalePlaces (x : Lexer) : Option Lexer :=
  let (stale, live) := x.places.partition x.isStale
  if stale.any (·.isRequired) then none else some { x with places := live }

/-- Where a key of the innermost collection may have begun. -/
def place? (x : Lexer) : Option KeyPlace := x.places.head?.filter (·.depth = x.depth)

/-- Gives up the place of a key in the innermost collection. -/
def dropPlace (x : Lexer) : Option Lexer :=
  match x.place? with
  | none => some x
  | some place => if place.isRequired then none else some { x with places := x.places.tail }

/-- Remembers that a key may begin at the next token. -/
def markPlace (x : Lexer) : Option Lexer := do
  if !x.mayStartKey then some x
  else
    let x ← x.dropPlace
    let c := x.cursor
    let place : KeyPlace := {
      depth := x.depth
      number := x.count
      index := c.index
      line := c.line
      column := c.column
      isRequired := !x.inFlow && x.indent = c.column }
    some { x with places := place :: x.places }

/-- Whether a key may begin at the first token of the queue. -/
def isHeadOpen (x : Lexer) : Bool := x.places.any (·.number = x.taken)

/-! ## Indentation -/

/-- Starts a block collection at a column that is further right, at the token `number`. -/
def openBlock (x : Lexer) (column number : Nat) (start : Token) : Lexer :=
  if !x.inFlow && x.indent < column then
    { x with indent := column, outerIndents := x.indent :: x.outerIndents }.insert number start
  else x

/-- Closes the innermost of `indents` that are further right than a column. -/
def closedBlocks (column : Int) : Int → List Int → Nat × Int × List Int
  | indent, [] => (0, indent, [])
  | indent, outer :: indents =>
    if indent > column then
      let (n, left) := closedBlocks column outer indents
      (n + 1, left)
    else (0, indent, outer :: indents)

/-- Ends the block collections that are further right than a column. -/
def closeBlocks (x : Lexer) (column : Int) : Lexer :=
  if x.inFlow then x
  else
    let (n, indent, outer) := closedBlocks column x.indent x.outerIndents
    { x with
      indent := indent
      outerIndents := outer
      queue := x.queue ++ List.replicate n .blockEnd }

/-! ## Tokens -/

/-- Moves over blanks, comments and line ends. -/
def skipGaps : Nat → Lexer → Lexer
  | 0, x => x
  | fuel + 1, x =>
    let c := if x.cursor.index = 0 && x.cursor.isAt '\ufeff' then x.cursor.skip else x.cursor
    let c := c.skipWhile fun char => char = ' ' || (char = '\t' && (x.inFlow || !x.mayStartKey))
    let c := if c.isAt '#' then c.skipWhile (!isBreak ·) else c
    if c.atBreak then
      skipGaps fuel { x with cursor := c.skipBreak, mayStartKey := x.mayStartKey || !x.inFlow }
    else { x with cursor := c }

/-- Hands on a token with the cursor behind it. -/
def emit (x : Lexer) (token : Token) (mayStartKey : Bool) (c : Cursor) : Lexer :=
  { x with cursor := c, mayStartKey := mayStartKey }.push token

def lexEnd (x : Lexer) : Option Lexer := do
  let x ← (x.closeBlocks (-1)).dropPlace
  let c := x.cursor
  some (x.emit .streamEnd false (if c.column = 0 then c else { c with column := 0, line := c.line + 1 }))

def lexDirective (x : Lexer) : Option Lexer := do
  let x ← (x.closeBlocks (-1)).dropPlace
  let (token, c) ← readDirective x.cursor
  some (x.emit token false c)

def lexDocumentMark (x : Lexer) (token : Token) : Option Lexer := do
  let x ← (x.closeBlocks (-1)).dropPlace
  some (x.emit token false (x.cursor.skipMany 3))

def lexFlowStart (x : Lexer) (token : Token) : Option Lexer := do
  let x ← x.markPlace
  some ({ x with depth := x.depth + 1 }.emit token true x.cursor.skip)

def lexFlowEnd (x : Lexer) (token : Token) : Option Lexer := do
  let x ← x.dropPlace
  some ({ x with depth := x.depth - 1 }.emit token false x.cursor.skip)

def lexFlowEntry (x : Lexer) : Option Lexer := do
  let x ← x.dropPlace
  some (x.emit .flowEntry true x.cursor.skip)

/-- A block collection may start here, unless in a flow collection or where no key may begin. -/
def startBlock (x : Lexer) (start : Token) : Option Lexer :=
  if x.inFlow then some x
  else if x.mayStartKey then some (x.openBlock x.cursor.column x.count start)
  else none

def lexBlockEntry (x : Lexer) : Option Lexer := do
  let x ← x.startBlock .blockSequenceStart
  let x ← x.dropPlace
  some (x.emit .blockEntry true x.cursor.skip)

def lexKey (x : Lexer) : Option Lexer := do
  let x ← x.startBlock .blockMappingStart
  let x ← x.dropPlace
  some (x.emit .key (!x.inFlow) x.cursor.skip)

/-- A colon makes a key of what began at the place of the innermost collection. -/
def lexValue (x : Lexer) : Option Lexer := do
  match x.place? with
  | some place =>
    let x := (x.insert place.number .key).openBlock place.column place.number .blockMappingStart
    some ({ x with places := x.places.tail }.emit .value false x.cursor.skip)
  | none =>
    let x ← x.startBlock .blockMappingStart
    some (x.emit .value (!x.inFlow) x.cursor.skip)

def lexName (x : Lexer) (token : String → Token) : Option Lexer := do
  let x ← x.markPlace
  let (name, c) ← readName x.cursor.skip
  some (x.emit (token name) false c)

def lexTag (x : Lexer) : Option Lexer := do
  let x ← x.markPlace
  let (token, c) ← readTag x.inFlow x.cursor
  some (x.emit token false c)

def lexBlockScalar (x : Lexer) (style : Style) : Option Lexer := do
  let x ← x.dropPlace
  let (text, c) ← readBlock (style = .literal) x.indent x.limit x.cursor.skip
  some (x.emit (.scalar text style) true c)

def lexQuoted (x : Lexer) (style : Style) : Option Lexer := do
  let x ← x.markPlace
  let (text, c) ← readQuoted (style = .singleQuoted) x.limit [] x.limit x.cursor.skip
  some (x.emit (.scalar text style) false c)

def lexPlain (x : Lexer) : Option Lexer := do
  let x ← x.markPlace
  let (text, isBroken, c) ←
    readPlain x.inFlow (x.indent + 1).toNat x.limit [] Gap.none x.limit x.cursor
  some (x.emit (.scalar text .plain) isBroken c)

/-- Whether a plain scalar may start at a cursor. -/
def startsPlain (inFlow : Bool) (c : Cursor) : Bool :=
  !(c.atGap || c.peek?.any fun char => "-?:,[]\x7b\x7d#&*!|>\x27\"%@\x60".contains char)
    || (c.isAt '-' && !(c.ahead? 1).any isSpaceOrTab)
    || (!inFlow && (c.isAt '?' || c.isAt ':') && !c.isGapAhead 1)

/-- Finds the token at the cursor. -/
def lexHere (x : Lexer) : Option Lexer :=
  let c := x.cursor
  match c.peek? with
  | none => x.lexEnd
  | some char =>
    if c.column = 0 && char = '%' then x.lexDirective
    else if c.atMarks '-' then x.lexDocumentMark .documentStart
    else if c.atMarks '.' then x.lexDocumentMark .documentEnd
    else if char = '[' then x.lexFlowStart .flowSequenceStart
    else if char = '\x7b' then x.lexFlowStart .flowMappingStart
    else if char = ']' then x.lexFlowEnd .flowSequenceEnd
    else if char = '\x7d' then x.lexFlowEnd .flowMappingEnd
    else if char = ',' then x.lexFlowEntry
    else if char = '-' && c.isGapAhead 1 then x.lexBlockEntry
    else if char = '?' && (x.inFlow || c.isGapAhead 1) then x.lexKey
    else if char = ':' && (x.inFlow || c.isGapAhead 1) then x.lexValue
    else if char = '*' then x.lexName .alias
    else if char = '&' then x.lexName .anchor
    else if char = '!' then x.lexTag
    else if char = '|' && !x.inFlow then x.lexBlockScalar .literal
    else if char = '>' && !x.inFlow then x.lexBlockScalar .folded
    else if char = '\x27' then x.lexQuoted .singleQuoted
    else if char = '"' then x.lexQuoted .doubleQuoted
    else if startsPlain x.inFlow c then x.lexPlain
    else none

/-- Finds one more token. -/
def lexNext (x : Lexer) : Option Lexer := do
  let x ← (skipGaps x.limit x).dropStalePlaces
  (x.closeBlocks x.cursor.column).lexHere

/-- The tokens from here on, up to the end of the stream or of what keeps the rules. -/
def run : Nat → Lexer → List Token
  | 0, _ => []
  | fuel + 1, x =>
    match x.queue with
    | [] => (x.lexNext.map (run fuel)).getD []
    | token :: queue =>
      match x.dropStalePlaces with
      | none => []
      | some x =>
        if x.isHeadOpen then (x.lexNext.map (run fuel)).getD []
        else if token = .streamEnd then [token]
        else token :: run fuel { x with queue := queue, taken := x.taken + 1 }

end Lexer

/-- Characters that a text may hold. -/
def isTextChar (c : Char) : Bool :=
  c = '\t' || c = '\n' || c = '\r' || (' ' ≤ c && c ≤ '~') || c = '\x85'
    || ('\xa0' ≤ c && c ≠ '\ufffe' && c ≠ '\uffff')

/-- The tokens of a text; none if it holds a character that is not allowed. -/
def tokens (text : String) : List Token :=
  let cs := text.toList
  if cs.all isTextChar then Lexer.run (8 * (cs.length + 2)) (.ofText cs) else []

end ActivityForge.Yaml
