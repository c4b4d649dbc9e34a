import Blueprint.Kotlin.Layout
import Blueprint.Text.Blank
import Blueprint.Text.Lines
import Blueprint.Text.Split

/-!
# Documentation comments

Documentation becomes a block comment.  Block comments nest in Kotlin, so both delimiters are
spelled with a character reference inside the text.
-/

namespace Blueprint.Kotlin

open Blueprint.Text

/-- The text with both comment delimiters made harmless. -/
def escapeComment (text : List Char) : List Char :=
  replacePair '/' '*' "/&#42;".toList (replacePair '*' '/' "*&#47;".toList text)

/-- The lines of a documentation text as they stand inside the comment. -/
def commentLines (text : List Char) : List (List Char) :=
  (lines (trim (escapeComment text))).map trimEnd

/-- A documentation comment.  Blank documentation makes none. -/
def docComment (doc : String) : List Line :=
  match (commentLines doc.toList).map String.ofList with
  | [] => []
  | [single] => [line ("/** " ++ single ++ " */")]
  | many =>
    line "/**" :: many.map (fun l => line (if l.isEmpty then " *" else " * " ++ l)) ++ [line " */"]

/-- The comment of a class that lists its documented properties, given by name and text. -/
def propertyComment (docs : List (String × String)) : List Line :=
  if docs.isEmpty then []
  else docComment ("\n".intercalate
    (docs.map fun (name, doc) => "@property " ++ name ++ " " ++ trimmed doc))

end Blueprint.Kotlin
