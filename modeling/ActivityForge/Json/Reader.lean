import ActivityForge.Json.Numeral
import ActivityForge.Reading.Tree

/-!
# Reading JSON

`Json.source` reads a JSON text to a tree.  A reader returns the tree it found and the text that
follows, or no text if the input broke off; in that case the last part of the tree carries the
fault.
-/

open ActivityForge.Number (hexValue?)

namespace ActivityForge.Json

open Reading

/-- What a reader found, and the text behind it unless the input broke off. -/
abbrev Found := Tree × Option (List Char)

/-- The input breaks off here. -/
def broken (f : Fault) : Found := (.flawed f (some f), none)

/-- The fault of a text that does not go on as it has to. -/
def faultAt (cs : List Char) : Fault := if cs.isEmpty then .truncated else .malformed

def skipBlanks (cs : List Char) : List Char :=
  cs.dropWhile fun c => c = ' ' || c = '\t' || c = '\n' || c = '\r'

/-! ## Scalars -/

def scalar (a : Atom) : Tree :=
  .scalar {
    atom := a
    text? := match a with
      | .text s => some s
      | _ => none
    flag? := match a with
      | .bool b => some b
      | _ => none
    absent? := some (match a with
      | .unit => true
      | _ => false)
    isHollow := false }

/-- Expects the letters of a word. -/
def readWord (a : Atom) : List Char → List Char → Found
  | [], rest => (scalar a, some rest)
  | w :: word, c :: cs => if c = w then readWord a word cs else broken .malformed
  | _ :: _, [] => broken .truncated

def readNumber (cs : List Char) : Found :=
  match readNumeral cs with
  | .ok (n, rest) =>
    match n.value? with
    | some (.int i) => (scalar (.int i), some rest)
    | some (.float x) => (scalar (.float x), some rest)
    | none => (.flawed .malformed none, some rest)
  | .error .noDigit => broken .malformed
  | .error .noEnd => (.flawed .truncated (some .malformed), none)

/-! ## Strings -/

/-- Four hexadecimal digits and the text behind them.  The input has to go on for four bytes. -/
def readHex (cs : List Char) : Except Fault (Nat × List Char) :=
  match cs with
  | a :: b :: c :: d :: rest =>
    match hexValue? a, hexValue? b, hexValue? c, hexValue? d with
    | some a, some b, some c, some d => .ok (((a * 16 + b) * 16 + c) * 16 + d, rest)
    | _, _, _, _ => .error .malformed
  | _ => .error (if (String.ofList cs).utf8ByteSize < 4 then .truncated else .malformed)

/-- The character that an escape of the unit `n` denotes, with the text behind it: a high
surrogate has to be followed by the escape of a low one. -/
def readUnit (n : Nat) (rest : List Char) : Except Fault (Char × List Char) :=
  if n < 0xD800 || 0xDFFF < n then .ok (Char.ofNat n, rest)
  else if 0xDC00 ≤ n then .error .malformed
  else
    match rest with
    | [] => .error .truncated
    | '\\' :: [] => .error .truncated
    | '\\' :: 'u' :: more => do
      let (low, rest) ← readHex more
      if low < 0xDC00 || 0xDFFF < low then .error .malformed
      else .ok (Char.ofNat (0x10000 + (n - 0xD800) * 0x400 + (low - 0xDC00)), rest)
    | _ => .error .malformed

/-- The character of a short escape. -/
def shortEscape? (c : Char) : Option Char :=
  match c with
  | '"' => some '"'
  | '\\' => some '\\'
  | '/' => some '/'
  | 'b' => some '\x08'
  | 'f' => some '\x0c'
  | 'n' => some '\n'
  | 'r' => some '\r'
  | 't' => some '\t'
  | _ => none

/-- The input breaks off inside a string, which may have had a fault before. -/
def brokenText (kept : Except Fault (List Char)) (f : Fault) : Found :=
  match kept with
  | .ok _ => broken f
  | .error g => (.flawed g (some f), none)

/-- Reads a string behind its opening quote.  `kept` holds what has been read so far, last
character first, or the first fault that matters only if the string is kept. -/
def readText (kept : Except Fault (List Char)) : Nat → List Char → Found
  | 0, _ | _, [] => brokenText kept .truncated
  | fuel + 1, c :: cs =>
    if c = '"' then
      match kept with
      | .ok text => (scalar (.text (String.ofList text.reverse)), some cs)
      | .error f => (.flawed f none, some cs)
    else if c.toNat < 32 then brokenText kept .malformed
    else if c = '\\' then
      match cs with
      | [] => brokenText kept .truncated
      | 'u' :: more =>
        match readHex more with
        | .error f => brokenText kept f
        | .ok (n, rest) =>
          match readUnit n rest with
          | .ok (char, rest) => readText (kept.map (char :: ·)) fuel rest
          | .error f => readText (kept.bind fun _ => .error f) fuel rest
      | e :: rest =>
        match shortEscape? e with
        | some char => readText (kept.map (char :: ·)) fuel rest
        | none => brokenText kept .malformed
    else readText (kept.map (c :: ·)) fuel cs

/-! ## Values -/

mutual

/-- The value at the start of a text. -/
def readValue : Nat → List Char → Found
  | 0, _ => broken .truncated
  | fuel + 1, cs =>
    match skipBlanks cs with
    | [] => broken .truncated
    | c :: rest =>
      if c = '"' then readText (.ok []) fuel rest
      else if c = '[' then
        match skipBlanks rest with
        | [] => (.list [] (some .truncated), none)
        | ']' :: rest => (.list [] none, some rest)
        | rest => readItems [] fuel rest
      else if c = '\x7b' then
        match skipBlanks rest with
        | '\x7d' :: rest => (.dict [] none, some rest)
        | rest => readMembers [] fuel rest
      else if c = 'n' then readWord .unit "ull".toList rest
      else if c = 't' then readWord (.bool true) "rue".toList rest
      else if c = 'f' then readWord (.bool false) "alse".toList rest
      else if c = '-' || c.isDigit then readNumber (c :: rest)
      else broken .malformed

/-- The items of a list up to its end; `items` are those before, last first. -/
def readItems (items : List Tree) : Nat → List Char → Found
  | 0, _ => (.list items.reverse (some .truncated), none)
  | fuel + 1, cs =>
    match readValue fuel cs with
    | (item, none) => (.list (item :: items).reverse none, none)
    | (item, some rest) =>
      match skipBlanks rest with
      | ',' :: rest =>
        match skipBlanks rest with
        | ']' :: _ => (.list (.flawed .malformed (some .malformed) :: item :: items).reverse none, none)
        | rest => readItems (item :: items) fuel rest
      | ']' :: rest => (.list (item :: items).reverse none, some rest)
      | rest => (.list (item :: items).reverse (some (faultAt rest)), none)

/-- The members of an object up to its end; `members` are those before, last first. -/
def readMembers (members : List (Tree × Tree)) : Nat → List Char → Found
  | 0, _ => (.dict members.reverse (some .truncated), none)
  | fuel + 1, cs =>
    match cs with
    | '"' :: rest =>
      match readText (.ok []) fuel rest with
      | (key, none) => (.dict ((key, scalar .unit) :: members).reverse none, none)
      | (key, some rest) =>
        match skipBlanks rest with
        | ':' :: rest =>
          match readValue fuel rest with
          | (value, none) => (.dict ((key, value) :: members).reverse none, none)
          | (value, some rest) =>
            match skipBlanks rest with
            | ',' :: rest => readMembers ((key, value) :: members) fuel (skipBlanks rest)
            | '\x7d' :: rest => (.dict ((key, value) :: members).reverse none, some rest)
            | rest => (.dict ((key, value) :: members).reverse (some (faultAt rest)), none)
        | rest => (.dict ((key, (broken (faultAt rest)).1) :: members).reverse none, none)
    | rest => (.dict members.reverse (some (faultAt rest)), none)

end

/-! ## Texts -/

/-- JSON as a notation for records: they may be written as lists, and 127 containers may be
nested. -/
def format : Format where
  positional := true
  unitName := "null"
  floatText := ActivityForge.Number.floatText
  maxDepth := 127
  tooDeep := .malformed

/-- A JSON text as a tree; nothing but blanks may follow its value. -/
def source (text : String) : Source :=
  let cs := text.toList
  let (root, rest) := readValue (2 * cs.length + 2) cs
  { format := format
    root := root
    anchors := fun _ => none
    jumps := 0
    after := match rest with
      | some rest => if (skipBlanks rest).isEmpty then none else some .malformed
      | none => none }

end ActivityForge.Json
