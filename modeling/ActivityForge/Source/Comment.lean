import ActivityForge.Text.Line

/-!
# Comment lines

Free text from a document as the lines of a doc comment.
-/

namespace ActivityForge.Source

/-- The lines of a text as they follow a comment mark: trimmed, and with a space in front unless
empty. -/
def docLines (text : String) : List String :=
  (Text.lines (Text.trim text.toList)).map fun line =>
    let kept := Text.trimEnd line
    if kept.isEmpty then "" else String.ofList (' ' :: kept)

/-- The comment lines of a text that may be absent. -/
def docLines? (text : Option String) : List String :=
  match text with
  | some t => docLines t
  | none => []

end ActivityForge.Source
