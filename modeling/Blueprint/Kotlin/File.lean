import Blueprint.Kotlin.Piece

/-!
# Kotlin files

The file of a unit is the text of its lines.  A writer arrives at the same text step by step: it
puts pieces into a growing text, one line after the other, and never holds more than the line it is
at.  It remembers how deep the next line stands and which name plan is in force, and every helper
that goes deeper comes back itself.  A whole unit brings its own name plan, which stays in force for
the pieces after it.
-/

namespace Blueprint.Kotlin

open Blueprint.Text

/-- The Kotlin file of a unit. -/
def renderUnit (layout : Layout) (u : SourceUnit) : String :=
  linesText layout.indentWidth (fileLines layout u)

/-! ## The writer -/

/-- A growing text. -/
structure Writer where
  layout : Layout
  /-- The name plan in force. -/
  plan : NamePlan := {}
  output : String := ""
  /-- How many levels deep the next line stands. -/
  indent : Nat := 0

/-- Something that a writer does. -/
abbrev Writing := StateM Writer Unit

/-- Writes a line at the depth reached; an empty one takes no indentation. -/
def writeLine (text : String) : Writing :=
  modify fun w =>
    let indentation := String.ofList (List.replicate (w.indent * w.layout.indentWidth) ' ')
    { w with output := w.output ++ (if text.isEmpty then "" else indentation ++ text) ++ "\n" }

/-- Writes an empty line. -/
def writeBlank : Writing :=
  modify fun w => { w with output := w.output ++ "\n" }

/-- Goes one level deeper. -/
def indentMore : Writing :=
  modify fun w => { w with indent := w.indent + 1 }

/-- Comes back from a level. -/
def indentLess : Writing :=
  modify fun w => { w with indent := w.indent - 1 }

/-- Writes a documentation comment. -/
def writeDoc (doc : String) : Writing :=
  match (commentLines doc.toList).map String.ofList with
  | [] => return
  | [single] => writeLine ("/** " ++ single ++ " */")
  | many => do
    writeLine "/**"
    many.forM fun l => writeLine (if l.isEmpty then " *" else " * " ++ l)
    writeLine " */"

/-- Writes the comment of a class that lists its documented properties. -/
def writePropertyDocs (docs : List (String × String)) : Writing :=
  let tags := docs.map fun (name, doc) => "@property " ++ name ++ " " ++ trimmed doc
  unless tags.isEmpty do
    writeDoc ("\n".intercalate tags)

/-- Writes list entries on lines of their own.  A comma follows each of them but the last, and the
last one too where the layout says so. -/
def writeEntries (entries : List String) : Writing := do
  let trailing := (← get).layout.trailingCommas
  let last := entries.length - 1
  entries.zipIdx.forM fun (entry, index) =>
    writeLine (if index < last || trailing then entry ++ "," else entry)

/-- Writes a head, a parenthesised list and a tail: on one line for at most one entry. -/
def writeParameterList (head : String) (entries : List String) (tail : String) : Writing :=
  if entries.length < 2 then
    writeLine (head ++ "(" ++ String.join entries ++ ")" ++ tail)
  else do
    writeLine (head ++ "(")
    indentMore
    writeEntries entries
    indentLess
    writeLine (")" ++ tail)

/-! ## Models -/

/-- Writes a class with properties; `keyword` introduces it if it has any. -/
def writeRecord (keyword name : String) (typeParams : List TypeParameter)
    (properties : List Property) (conformance : String) : Writing := do
  let plan := (← get).plan
  let generics := genericClause plan typeParams
  let tail := conformance ++ whereClause plan typeParams
  writePropertyDocs (documented properties)
  if properties.isEmpty then
    writeLine ("class " ++ escape name ++ generics ++ "()" ++ tail)
  else
    writeParameterList (keyword ++ " " ++ escape name ++ generics)
      (properties.map (propertyText plan)) tail

/-- Writes a sealed hierarchy: its interface, then its variants. -/
def writeSealed (name : String) (typeParams : List TypeParameter) (variants : List Variant) :
    Writing := do
  let plan := (← get).plan
  writeLine ("sealed interface " ++ escape name ++ genericClause plan typeParams ++
    whereClause plan typeParams)
  let conformance := " : " ++ escape name ++ forwardedArgs typeParams
  variants.forM fun v => do
    writeBlank
    if v.properties.isEmpty && typeParams.isEmpty then
      writeLine ("data object " ++ escape v.name ++ conformance)
    else
      writeRecord dataKeyword v.name typeParams v.properties conformance

/-- Writes an enum. -/
def writeEnum (name : String) (values : List String) : Writing :=
  if values.isEmpty then
    writeLine ("enum class " ++ escape name)
  else do
    writeLine ("enum class " ++ escape name ++ " \x7b")
    indentMore
    writeEntries (values.map escape)
    indentLess
    writeLine "\x7d"

/-- Writes a model. -/
def writeModel (m : Model) : Writing := do
  let layout := (← get).layout
  match m.shape with
  | .valueObject typeParams properties wrapper =>
    writeRecord (valueObjectKeyword layout wrapper properties) m.name typeParams properties ""
  | .entity typeParams properties => writeRecord dataKeyword m.name typeParams properties ""
  | .sealedHierarchy typeParams variants => writeSealed m.name typeParams variants
  | .enum values => writeEnum m.name values

/-! ## Methods -/

/-- Writes the comment and the annotations of a method. -/
def writeMethodHeader (m : Method) : Writing := do
  if let some doc := m.doc? then
    writeDoc doc
  m.annotations.forM fun annotation => writeLine (annotationText annotation)

/-- Writes a method with a body; a blank body is replaced by the placeholder. -/
def writeMethodBody (head : String) (body? : Option String) : Writing := do
  let body := (body?.getD "").toList
  writeLine (head ++ " \x7b")
  indentMore
  if (trim body).isEmpty then
    writeLine placeholderBody
  else
    (lines (trimEnd body)).forM fun l => writeLine (String.ofList (trimEnd l))
  indentLess
  writeLine "\x7d"

/-- Writes the methods of a class or interface, an empty line before each but the first. -/
def writeMembers (mode : MemberMode) (methods : List Method) : Writing := do
  indentMore
  methods.zipIdx.forM fun (m, index) => do
    if 0 < index then
      writeBlank
    writeMethodHeader m
    let head := methodHead (← get).plan (mode = .overriding) m
    if mode = .inInterface ∧ m.isAbstract then
      writeLine head
    else
      writeMethodBody head m.body?
  indentLess

/-! ## Ports, adapters and services -/

/-- Writes a port. -/
def writePort (p : Port) : Writing := do
  let plan := (← get).plan
  let supers :=
    if p.superTypes.isEmpty then "" else " : " ++ ", ".intercalate (typeTexts plan p.superTypes)
  let head := "interface " ++ escape p.name ++ genericClause plan p.typeParams ++ supers ++
    whereClause plan p.typeParams
  if p.methods.isEmpty then
    writeLine head
  else
    writeLine (head ++ " \x7b")
    writeMembers .inInterface p.methods
    writeLine "\x7d"

/-- Writes an adapter.  `port?` is the port it implements, if that is known. -/
def writeAdapter (a : Adapter) (port? : Option Port) : Writing := do
  let plan := (← get).plan
  let overrides := a.overrides port?
  let entries := a.constructorParams.map fun p => "private val " ++ parameterText plan p
  let head := "class " ++ escape a.name
  let tail := " : " ++ typeText plan a.implements ++ (if overrides.isEmpty then "" else " \x7b")
  if entries.isEmpty then
    writeLine (head ++ tail)
  else
    writeParameterList head entries tail
  unless overrides.isEmpty do
    writeMembers .overriding overrides
    writeLine "\x7d"

/-- Writes a service. -/
def writeService (s : Service) : Writing := do
  let plan := (← get).plan
  writePropertyDocs (documentedPorts s.ports)
  s.annotations.forM fun annotation => writeLine (annotationText annotation)
  let entries := s.constructorParams.map fun p => "val " ++ parameterText plan p
  writeParameterList ("class " ++ escape s.name) entries (if s.methods.isEmpty then "" else " \x7b")
  unless s.methods.isEmpty do
    writeMembers .inClass s.methods
    writeLine "\x7d"

/-! ## Units -/

/-- Writes the package line.  Returns whether the file is still empty. -/
def writePackage (u : SourceUnit) : StateM Writer Bool := do
  if u.package.isEmpty then
    return true
  writeLine ("package " ++ escapePath u.package)
  return false

/-- Writes the import lines of the plan in force, an empty line before them unless they come first.
`first` says whether the file is still empty, and so does the result. -/
def writeImports (first : Bool) : StateM Writer Bool := do
  let imports := (← get).plan.imports
  if imports.isEmpty then
    return first
  unless first do
    writeBlank
  imports.forM fun path => writeLine ("import " ++ escapePath path)
  return false

/-- Writes the package and the imports, if the layout wants them. -/
def writeHeader (u : SourceUnit) : StateM Writer Bool := do
  if (← get).layout.fileHeader then
    writeImports (← writePackage u)
  else
    return true

/-- Writes declarations of one kind, an empty line before each unless it comes first. -/
def writeBlocks (write : α → Writing) (first : Bool) (items : List α) : StateM Writer Bool :=
  items.foldlM (fun first item => do
    unless first do
      writeBlank
    write item
    return false) first

/-- Writes a whole file. -/
def writeUnit (u : SourceUnit) : Writing := do
  modify fun w => { w with plan := u.namePlan }
  let mut first ← writeHeader u
  first ← writeBlocks writeModel first u.models
  first ← writeBlocks writePort first u.ports
  first ← writeBlocks (fun a => writeAdapter a (u.portOf? a)) first u.adapters
  discard (writeBlocks writeService first u.services)

/-- Writes a piece. -/
def writePiece : Piece → Writing
  | .model m => writeModel m
  | .port p => writePort p
  | .adapter a port? => writeAdapter a port?
  | .service s => writeService s
  | .unit u => writeUnit u

/-- The writer after a piece more. -/
def Writer.write (w : Writer) (p : Piece) : Writer :=
  ((writePiece p).run w).2

end Blueprint.Kotlin
