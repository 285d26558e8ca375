import ActivityForge.Number.Shortest

/-!
# JSON values

Values in the sense of JSON, and their texts: `compact` without blanks, `pretty` over several
lines.  Members of an object are written in their order.
-/

namespace ActivityForge.Json

inductive Number
  | int (n : Int)
  | float (x : Float)

inductive Value
  | null
  | bool (b : Bool)
  | number (n : Number)
  | text (s : String)
  | list (items : List Value)
  | object (members : List (String × Value))

instance : Inhabited Value := ⟨.null⟩

/-! ## Texts -/

/-- One character inside a quoted string: only the quote, the backslash and controls are escaped. -/
def escapeChar (c : Char) : List Char :=
  if c = '"' then ['\\', '"']
  else if c = '\\' then ['\\', '\\']
  else if c = '\x08' then ['\\', 'b']
  else if c = '\t' then ['\\', 't']
  else if c = '\n' then ['\\', 'n']
  else if c = '\x0c' then ['\\', 'f']
  else if c = '\r' then ['\\', 'r']
  else if c.toNat < 32 then
    ['\\', 'u', '0', '0', Nat.digitChar (c.toNat / 16), Nat.digitChar (c.toNat % 16)]
  else [c]

def quotedChars (s : String) : List Char := '"' :: s.toList.flatMap escapeChar ++ ['"']

/-- A finite number; what is not finite has no text in JSON and is written as `null`. -/
def Number.text : Number → String
  | .int n => toString n
  | .float x => if x.isFinite then Number.floatText x else "null"

mutual

/-- The text of a value without any blanks. -/
def Value.compactChars : Value → List Char
  | .null => "null".toList
  | .bool b => (if b then "true" else "false").toList
  | .number n => n.text.toList
  | .text s => quotedChars s
  | .list items => '[' :: compactItems items ++ [']']
  | .object members => '\x7b' :: compactMembers members ++ ['\x7d']

/-- Items with commas between them. -/
def compactItems : List Value → List Char
  | [] => []
  | [item] => item.compactChars
  | item :: items => item.compactChars ++ ',' :: compactItems items

/-- Members with commas between them. -/
def compactMembers : List (String × Value) → List Char
  | [] => []
  | [(key, value)] => quotedChars key ++ ':' :: value.compactChars
  | (key, value) :: members =>
    quotedChars key ++ ':' :: value.compactChars ++ ',' :: compactMembers members

end

def Value.compact (v : Value) : String := String.ofList v.compactChars

/-- A new line with `depth` steps of indentation. -/
def newLine (depth : Nat) : List Char := '\n' :: List.replicate (2 * depth) ' '

mutual

/-- The text of a value with one item or member a line, nested `depth` deep. -/
def Value.prettyChars (depth : Nat) : Value → List Char
  | .list [] => ['[', ']']
  | .list items => '[' :: prettyItems (depth + 1) items ++ newLine depth ++ [']']
  | .object [] => ['\x7b', '\x7d']
  | .object members => '\x7b' :: prettyMembers (depth + 1) members ++ newLine depth ++ ['\x7d']
  | .null => "null".toList
  | .bool b => (if b then "true" else "false").toList
  | .number n => n.text.toList
  | .text s => quotedChars s

def prettyItems (depth : Nat) : List Value → List Char
  | [] => []
  | [item] => newLine depth ++ item.prettyChars depth
  | item :: items => newLine depth ++ item.prettyChars depth ++ ',' :: prettyItems depth items

def prettyMembers (depth : Nat) : List (String × Value) → List Char
  | [] => []
  | [(key, value)] => newLine depth ++ quotedChars key ++ ':' :: ' ' :: value.prettyChars depth
  | (key, value) :: members =>
    newLine depth ++ quotedChars key ++ ':' :: ' ' :: value.prettyChars depth
      ++ ',' :: prettyMembers depth members

end

def Value.pretty (v : Value) : String := String.ofList (v.prettyChars 0)

end ActivityForge.Json
