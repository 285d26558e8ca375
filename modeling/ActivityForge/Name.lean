import ActivityForge.Text.Line
import ActivityForge.Text.Words

/-!
# Names

A name from a document in the forms that the generated source needs.  `Name.ofText` computes the
cased forms of a name, `Name.fieldText` the camel case form of a parameter or property,
`Name.ofMethodAndPath` the identifier of an operation that has none, and `memberName` and
`identifier` the snake case names of members, modules and arguments.
-/

namespace ActivityForge

/-- A name and its forms in the usual case styles. -/
structure Name where
  original : String
  pascal : String
  camel : String
  snake : String
  screaming : String
deriving DecidableEq, Repr, Inhabited

namespace Name

/-- Letters and numbers of a name with one underscore for each gap between them; `started` tells
whether something has been kept and `gap` whether a separator came since. -/
def joinGaps (started gap : Bool) : List Char → List Char
  | [] => []
  | c :: rest =>
    if Text.isAlphanumeric c then
      (if gap && started then ['_', c] else [c]) ++ joinGaps true false rest
    else joinGaps started true rest

/-- A name made of letters, numbers and single underscores, with an underscore before a digit at
its start, and `unnamed` if nothing is left. -/
def sanitized (cs : List Char) : List Char :=
  match cs with
  | [] => "unnamed".toList
  | c :: _ =>
    let joined := joinGaps false false cs
    if joined.isEmpty then "unnamed".toList else if c.isDigit then '_' :: joined else joined

/-- An identifier may not start with a digit. -/
def guardDigit : List Char → List Char
  | [] => []
  | c :: rest => if c.isDigit then '_' :: c :: rest else c :: rest

/-- The forms of a name in all case styles. -/
def ofText (text : String) : Name :=
  let cs := sanitized text.toList
  { original := text
    pascal := String.ofList (guardDigit (Text.pascal cs))
    camel := String.ofList (guardDigit (Text.camel cs))
    snake := String.ofList (guardDigit (Text.snake cs))
    screaming := String.ofList (guardDigit (Text.screaming cs)) }

/-- The identifier of an operation without one: the method in lower case and the ASCII letters
and digits of the path. -/
def ofMethodAndPath (method path : String) : String :=
  String.ofList (Text.lowerText method.toList ++ path.toList.filter Char.isAlphanum)

/-- Characters that are dropped from a field name and raise the next one. -/
def isJoiner (c : Char) : Bool := c = '-' || c = '_' || c = ' '

/-- The camel case form of a field name, after `started` and `raise` of what came before: joiners
are dropped, the first character kept is lowered, and one after a joiner is raised. -/
def fieldChars (started raise : Bool) : List Char → List Char
  | [] => []
  | c :: rest =>
    if isJoiner c then fieldChars started true rest
    else if !started then Text.lower c ++ fieldChars true false rest
    else if raise then Text.upper c ++ fieldChars true false rest
    else c :: fieldChars true false rest

def fieldText (text : String) : String := String.ofList (fieldChars false false text.toList)

end Name

/-! ## Identifiers -/

/-- Keywords that become identifiers behind `r#`. -/
def rawKeywords : List String :=
  ["abstract", "as", "async", "await", "become", "box", "break", "const", "continue", "do",
   "dyn", "else", "enum", "extern", "false", "final", "fn", "for", "gen", "if", "impl", "in",
   "let", "loop", "macro", "match", "mod", "move", "mut", "override", "priv", "pub", "ref",
   "return", "static", "struct", "trait", "true", "try", "type", "typeof", "unsafe", "unsized",
   "use", "virtual", "where", "while", "yield"]

/-- Words that are no identifiers in any spelling. -/
def reservedWords : List String := ["crate", "self", "super", "Self"]

/-- The snake case name of a member, argument or module, before keywords are escaped. -/
def memberName (text : String) : String :=
  let cs := Text.snake text.toList
  if cs.isEmpty then "unnamed"
  else if cs.head?.any Char.isDigit || reservedWords.contains (String.ofList cs) then
    String.ofList ('_' :: cs)
  else String.ofList cs

/-- A keyword is written behind `r#`. -/
def escapeKeyword (text : String) : String :=
  if rawKeywords.contains text then "r#" ++ text else text

/-- The identifier of a member, argument or module. -/
def identifier (text : String) : String := escapeKeyword (memberName text)

end ActivityForge
