/-!
# Layout of generated files

Generated text is built as lines, each with its depth of indentation, and becomes text only at the
end.  An empty line carries no indentation.
-/

namespace Blueprint.Kotlin

/-- The switches of the layout.  None of them changes what the generated code means. -/
structure Layout where
  /-- The number of spaces of one level of indentation. -/
  indentWidth : Nat := 4
  /-- Whether the last entry of a list on several lines takes a comma. -/
  trailingCommas : Bool := true
  /-- Whether a wrapper around one field becomes a value class. -/
  inlineValueClasses : Bool := true
  /-- Whether a file starts with its package and imports. -/
  fileHeader : Bool := true
deriving DecidableEq, Repr, Inhabited

/-- A line of generated text. -/
structure Line where
  depth : Nat := 0
  text : String
deriving DecidableEq, Repr, Inhabited

namespace Line

/-- A line one level deeper. -/
def deeper (l : Line) : Line :=
  { l with depth := l.depth + 1 }

/-- The text of a line, its line feed included, with `width` spaces a level. -/
def render (width : Nat) (l : Line) : String :=
  if l.text.isEmpty then "\n"
  else String.ofList (List.replicate (l.depth * width) ' ') ++ l.text ++ "\n"

end Line

/-- A line without indentation. -/
def line (text : String) : Line :=
  { text }

/-- The empty line. -/
def blankLine : Line :=
  line ""

/-- Lines one level deeper. -/
def indented (ls : List Line) : List Line :=
  ls.map Line.deeper

/-- The text of some lines. -/
def linesText (width : Nat) (ls : List Line) : String :=
  String.join (ls.map (Line.render width))

/-- Blocks of lines with one empty line between two of them. -/
def separated (blocks : List (List Line)) : List Line :=
  [blankLine].intercalate blocks

/-- List entries on lines of their own.  Every entry but the last takes a comma, and the last one
too if `trailing` says so. -/
def commaLines (trailing : Bool) : List String → List Line
  | [] => []
  | [entry] => [line (if trailing then entry ++ "," else entry)]
  | entry :: entries => line (entry ++ ",") :: commaLines trailing entries

end Blueprint.Kotlin
