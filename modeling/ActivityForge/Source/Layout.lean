/-!
# Layout of generated source

Source text as a list of lines.  `block` puts lines between braces, one step further in.
-/

namespace ActivityForge.Source

abbrev Lines := List String

/-- The text of lines, each ended by a line feed. -/
def Lines.text (lines : Lines) : String := String.join (lines.map (· ++ "\n"))

/-- Lines one step further in; empty lines stay empty. -/
def indent (lines : Lines) : Lines := lines.map fun l => if l.isEmpty then l else "    " ++ l

/-- `head`, then the body between braces, then `tail` behind the closing brace. -/
def block (head : String) (body : Lines) (tail : String) : Lines :=
  (head ++ " \x7b") :: indent body ++ ["\x7d" ++ tail]

/-- Comment lines with a mark in front. -/
def comment (mark : String) (docs : List String) : Lines := docs.map (mark ++ ·)

/-- The lines of several parts with an empty line before each. -/
def spaced (parts : List Lines) : Lines := parts.flatMap ("" :: ·)

/-- The lines of several parts with an empty line between them. -/
def separated : List Lines → Lines
  | [] => []
  | part :: parts => part ++ spaced parts

end ActivityForge.Source
