import Blueprint.Proofs.Kotlin.File
import Blueprint.Proofs.Kotlin.Writer

/-!
# The blocks of a file

A file is its package line, its import lines and the texts of its declarations, in this order and
with one empty line between two of them.  The writer gets there with a single flag that says whether
the file is still empty, handed on through the header and four loops; `renderUnit_eq_blocks` says
that the flag puts an empty line everywhere it belongs and nowhere else.

An empty line between two blocks is one line feed between their texts.  It is a line of its own
because the text before it ends with a line feed, and it is the only one because the text after it
does not start with another (`IsBlock`).  The last fact depends on how each kind of declaration
begins (`Opens`).  Line feeds inside a block, from names and default values, are the block's own.
-/

namespace Blueprint.Kotlin

/-! ## Texts of blocks -/

lemma linesText_separated (width : Nat) (blocks : List (List Line)) :
    linesText width (separated blocks) = "\n".intercalate (blocks.map (linesText width)) := by
  have hblank : linesText width [blankLine] = "\n" := by
    simp [blankLine, line, Line.render]
  induction blocks with
  | nil => rfl
  | cons block blocks ih =>
    cases blocks with
    | nil => simp [separated]
    | cons next rest =>
      have hrest : following (next :: rest) = [blankLine] ++ separated (next :: rest) := by
        rw [separated_cons]
        rfl
      have htexts : "\n".intercalate ((block :: next :: rest).map (linesText width)) =
          linesText width block ++ "\n" ++
            "\n".intercalate ((next :: rest).map (linesText width)) :=
        String.intercalate_cons_cons
      rw [separated_cons, hrest, linesText_append, linesText_append, hblank, ih, htexts,
        String.append_assoc]

/-- A text of whole lines that does not start with an empty one. -/
structure IsBlock (text : String) : Prop where
  head_ne : text.toList.head? ≠ some '\n'
  getLast_eq : text.toList.getLast? = some '\n'

/-- The text begins with a character that is no line feed. -/
def Begins (text : String) : Prop :=
  ∃ c rest, text.toList = c :: rest ∧ c ≠ '\n'

lemma begins_iff {text : String} :
    Begins text ↔ text.toList.head?.any (fun c => c ≠ '\n') = true := by
  unfold Begins
  cases text.toList <;> simp

instance (text : String) : Decidable (Begins text) :=
  decidable_of_iff _ begins_iff.symm

lemma Begins.append {text : String} (h : Begins text) (more : String) : Begins (text ++ more) := by
  obtain ⟨c, rest, htext, hc⟩ := h
  exact ⟨c, rest ++ more.toList, by simp [htext], hc⟩

/-- There is a first line, and its text begins with a character that is no line feed. -/
def Opens (ls : List Line) : Prop :=
  ∃ l rest, ls = l :: rest ∧ Begins l.text

lemma Opens.cons {text : String} (h : Begins text) (rest : List Line) :
    Opens (line text :: rest) :=
  ⟨line text, rest, rfl, h⟩

lemma Opens.append {ls : List Line} (h : Opens ls) (more : List Line) : Opens (ls ++ more) := by
  obtain ⟨l, rest, rfl, hl⟩ := h
  exact ⟨l, rest ++ more, rfl, hl⟩

lemma getLast?_render (width : Nat) (l : Line) : (l.render width).toList.getLast? = some '\n' := by
  unfold Line.render
  split
  · rfl
  · simp

lemma getLast?_linesText (width : Nat) (l : Line) (rest : List Line) :
    (linesText width (l :: rest)).toList.getLast? = some '\n' := by
  induction rest generalizing l with
  | nil => simpa using getLast?_render width l
  | cons next rest ih =>
    rw [linesText_cons, String.toList_append, List.getLast?_append, ih next]
    rfl

/-- Indentation does not hide how a line begins: a line feed is no space. -/
lemma Opens.isBlock {ls : List Line} (h : Opens ls) (width : Nat) :
    IsBlock (linesText width ls) := by
  obtain ⟨l, rest, rfl, c, text, htext, hc⟩ := h
  refine ⟨?_, getLast?_linesText width l rest⟩
  have hne : l.text.isEmpty = false := by
    rw [← Bool.not_eq_true, String.isEmpty_iff]
    intro hempty
    simp [hempty] at htext
  rw [linesText_cons, Line.render, hne]
  cases hspaces : List.replicate (l.depth * width) ' ' with
  | nil => simp [htext, hc]
  | cons space spaces =>
    have hspace : space = ' ' := List.eq_of_mem_replicate (hspaces ▸ List.mem_cons_self)
    simp [hspace]

/-! ## How declarations begin -/

section Declarations

variable (plan : NamePlan) (layout : Layout)

/-- Documentation makes no line, or opens a comment. -/
lemma docComment_cases (doc : String) : docComment doc = [] ∨ Opens (docComment doc) := by
  have hone : Begins "/** " := by decide
  have hmany : Begins "/**" := by decide
  unfold docComment
  cases (commentLines doc.toList).map String.ofList with
  | nil => exact Or.inl rfl
  | cons first rest =>
    right
    cases rest with
    | nil => exact .cons ((hone.append first).append " */") []
    | cons second rest => exact .cons hmany _

lemma Opens.doc {ls : List Line} (h : Opens ls) (doc : String) : Opens (docComment doc ++ ls) := by
  rcases docComment_cases doc with hnil | hopens
  · rw [hnil]
    exact h
  · exact hopens.append ls

lemma Opens.comment {ls : List Line} (h : Opens ls) (docs : List (String × String)) :
    Opens (propertyComment docs ++ ls) := by
  unfold propertyComment
  split
  · exact h
  · exact h.doc _

lemma opens_parameterList {head : String} (h : Begins head) (entries : List String)
    (tail : String) : Opens (parameterList layout head entries tail) := by
  cases entries with
  | nil => exact .cons ((h.append _).append _) _
  | cons entry rest =>
    cases rest with
    | nil => exact .cons ((((h.append _).append _).append _).append _) _
    | cons next rest => exact .cons (h.append _) _

lemma opens_recordLines {keyword : String} (h : Begins keyword) (name : String)
    (typeParams : List TypeParameter) (properties : List Property) (conformance : String) :
    Opens (recordLines plan layout keyword name typeParams properties conformance) := by
  have hkeyword : Begins (if properties.isEmpty then "class" else keyword) := by
    split
    · exact (by decide : Begins "class")
    · exact h
  have hhead := ((hkeyword.append " ").append (escape name)).append (genericClause plan typeParams)
  exact (opens_parameterList layout hhead _ _).comment _

lemma opens_modelLines (m : Model) : Opens (modelLines plan layout m) := by
  obtain ⟨name, package, shape⟩ := m
  have hdata : Begins dataKeyword := by decide
  cases shape with
  | valueObject typeParams properties wrapper =>
    have hkeyword : Begins (valueObjectKeyword layout wrapper properties) := by
      unfold valueObjectKeyword
      split
      · exact (by decide : Begins valueKeyword)
      · exact hdata
    exact opens_recordLines plan layout hkeyword _ _ _ _
  | entity typeParams properties => exact opens_recordLines plan layout hdata _ _ _ _
  | sealedHierarchy typeParams variants =>
    have hhead : Begins "sealed interface " := by decide
    have hlines : modelLines plan layout ⟨name, package, .sealedHierarchy typeParams variants⟩ =
        line ("sealed interface " ++ escape name ++ genericClause plan typeParams ++
          whereClause plan typeParams) :: following (variants.map
            (variantLines plan layout typeParams
              (" : " ++ escape name ++ forwardedArgs typeParams))) := separated_cons _ _
    rw [hlines]
    exact .cons (((hhead.append _).append _).append _) _
  | enum values =>
    have hhead : Begins "enum class " := by decide
    cases values with
    | nil => exact .cons (hhead.append _) _
    | cons value values => exact .cons ((hhead.append _).append _) _

lemma opens_portLines (p : Port) : Opens (portLines plan p) := by
  have hhead : Begins "interface " := by decide
  have hline := (((hhead.append (escape p.name)).append (genericClause plan p.typeParams)).append
    (if p.superTypes.isEmpty then "" else
      " : " ++ ", ".intercalate (typeTexts plan p.superTypes))).append
        (whereClause plan p.typeParams)
  unfold portLines
  by_cases hmethods : p.methods.isEmpty = true
  · simp only [hmethods, if_true]
    exact .cons hline _
  · simp only [hmethods]
    exact .cons (hline.append _) _

lemma opens_adapterLines (a : Adapter) (port? : Option Port) :
    Opens (adapterLines plan layout a port?) := by
  have hclass : Begins "class " := by decide
  have hhead := hclass.append (escape a.name)
  unfold adapterLines
  refine Opens.append ?_ _
  by_cases hparams : a.constructorParams = []
  · simp only [hparams, List.map_nil, List.isEmpty_nil, if_true]
    exact .cons (hhead.append _) _
  · simp only [List.isEmpty_iff, List.map_eq_nil_iff, hparams, if_false]
    exact opens_parameterList layout hhead _ _

lemma begins_annotationText (text : String) : Begins (annotationText text) := by
  unfold annotationText
  split
  next hat =>
    obtain ⟨rest, hrest⟩ := List.head?_eq_some_iff.1 hat
    exact ⟨'@', rest, hrest, by decide⟩
  next => exact Begins.append (by decide) text

lemma opens_serviceLines (s : Service) : Opens (serviceLines plan layout s) := by
  have hhead : Begins "class " := by decide
  have hclass := opens_parameterList layout (hhead.append (escape s.name))
    (s.constructorParams.map fun p => "val " ++ parameterText plan p)
    (if s.methods.isEmpty then "" else " \x7b")
  have hannotated : Opens (s.annotations.map (line ∘ annotationText) ++
      parameterList layout ("class " ++ escape s.name)
        (s.constructorParams.map fun p => "val " ++ parameterText plan p)
        (if s.methods.isEmpty then "" else " \x7b")) := by
    cases s.annotations with
    | nil => exact hclass
    | cons annotation rest => exact .cons (begins_annotationText annotation) _
  have hall := (hannotated.comment (documentedPorts s.ports)).append
    (if s.methods.isEmpty then [] else memberLines plan .inClass s.methods ++ [line "\x7d"])
  simpa only [serviceLines, List.append_assoc] using hall

lemma isBlock_text {u : SourceUnit} {d : Piece} (hd : d ∈ u.pieces) :
    IsBlock (d.text plan layout) := by
  have hopens : Opens (d.lines plan layout) := by
    simp only [SourceUnit.pieces, List.mem_append, List.mem_map] at hd
    rcases hd with ((⟨m, -, rfl⟩ | ⟨p, -, rfl⟩) | ⟨a, -, rfl⟩) | ⟨s, -, rfl⟩
    · exact opens_modelLines plan layout m
    · exact opens_portLines plan p
    · exact opens_adapterLines plan layout a _
    · exact opens_serviceLines plan layout s
  exact hopens.isBlock layout.indentWidth

end Declarations

/-! ## Files -/

/-- The texts of the blocks in front of the declarations. -/
def headerTexts (u : SourceUnit) : List String :=
  (if u.package = "" then [] else ["package " ++ escapePath u.package ++ "\n"]) ++
    if u.imports = [] then []
    else [String.join (u.imports.map fun path => "import " ++ escapePath path ++ "\n")]

lemma linesText_line (text : String) (h : text ≠ "") (width : Nat) :
    linesText width [line text] = text ++ "\n" := by
  simp [line, Line.render, h]

lemma map_linesText_headerBlocks (width : Nat) (u : SourceUnit) :
    (headerBlocks u).map (linesText width) = headerTexts u := by
  have hpackage : linesText width [line ("package " ++ escapePath u.package)] =
      "package " ++ escapePath u.package ++ "\n" := linesText_line _ (by simp) width
  have himports : linesText width (u.imports.map fun path => line ("import " ++ escapePath path)) =
      String.join (u.imports.map fun path => "import " ++ escapePath path ++ "\n") := by
    have hline : ∀ path, (line ("import " ++ escapePath path)).render width =
        "import " ++ escapePath path ++ "\n" := by
      intro path
      simpa using linesText_line ("import " ++ escapePath path) (by simp) width
    simp only [linesText, List.map_map, Function.comp_def, hline]
  have hoptional : ∀ {c : Prop} [Decidable c] (block : List Line),
      (if c then [] else [block]).map (linesText width) =
        if c then [] else [linesText width block] := by
    intro c _ block
    split <;> rfl
  simp only [headerBlocks, headerTexts, String.isEmpty_iff, List.isEmpty_iff, List.map_append,
    hoptional, hpackage, himports]

lemma opens_of_mem_headerBlocks {u : SourceUnit} {block : List Line} (h : block ∈ headerBlocks u) :
    Opens block := by
  have hpackage : Begins "package " := by decide
  have himport : Begins "import " := by decide
  rcases List.mem_append.1 h with hfirst | hsecond
  · split at hfirst
    · simp at hfirst
    · rw [List.mem_singleton.1 hfirst]
      exact .cons (hpackage.append _) []
  · cases himports : u.imports with
    | nil => simp [himports] at hsecond
    | cons path paths =>
      simp only [himports, List.isEmpty_cons, Bool.false_eq_true, if_false,
        List.mem_singleton] at hsecond
      rw [hsecond]
      exact .cons (himport.append _) _

lemma isBlock_of_mem_headerTexts {u : SourceUnit} {text : String} (h : text ∈ headerTexts u) :
    IsBlock text := by
  rw [← map_linesText_headerBlocks 0 u, List.mem_map] at h
  obtain ⟨block, hblock, rfl⟩ := h
  exact (opens_of_mem_headerBlocks hblock).isBlock 0

/-- Whether a file has a header makes no difference to its declarations. -/
lemma text_fileHeader {u : SourceUnit} {d : Piece} (hd : d ∈ u.pieces) (plan : NamePlan)
    (layout : Layout) (header : Bool) :
    d.text plan { layout with fileHeader := header } = d.text plan layout := by
  simp only [SourceUnit.pieces, List.mem_append, List.mem_map] at hd
  rcases hd with ((⟨m, -, rfl⟩ | ⟨p, -, rfl⟩) | ⟨a, -, rfl⟩) | ⟨s, -, rfl⟩ <;> rfl

/-- Blocks that follow others can be joined first. -/
lemma intercalate_append_joined (texts others : List String) (h : others ≠ []) :
    "\n".intercalate (texts ++ others) = "\n".intercalate (texts ++ ["\n".intercalate others]) := by
  cases texts with
  | nil => simp
  | cons text texts =>
    rw [String.intercalate_append_of_ne_nil (by simp) h,
      String.intercalate_append_of_ne_nil (by simp) (by simp), String.intercalate_singleton]

lemma renderUnit_eq_intercalate (layout : Layout) (u : SourceUnit) :
    renderUnit layout u = "\n".intercalate ((if layout.fileHeader then headerTexts u else []) ++
      u.pieces.map (Piece.text u.namePlan layout)) := by
  have hheader : (if layout.fileHeader then headerBlocks u else []).map
      (linesText layout.indentWidth) = if layout.fileHeader then headerTexts u else [] := by
    split
    · exact map_linesText_headerBlocks _ u
    · rfl
  rw [renderUnit, fileLines, linesText_separated, fileBlocks, declarationBlocks_eq_map,
    List.map_append, hheader, List.map_map]
  rfl

lemma pairwise_imports (u : SourceUnit) : u.imports.Pairwise (· < ·) :=
  (NameSet.pairwise_ofList _).filter _

/-- A fresh writer that is given a whole unit ends up with the unit's file. -/
lemma output_write_unit (layout : Layout) (u : SourceUnit) :
    (Writer.write { layout } (.unit u)).output = renderUnit layout u := by
  have hwrite := congrArg Writer.output (Writer.write_eq { layout } (.unit u) rfl)
  have hempty : ("" : String) ++ renderUnit layout u = renderUnit layout u := String.empty_append
  rw [hwrite]
  exact hempty

/-- A file with its header is the file without it after the blocks of the header. -/
lemma renderUnit_fileHeader (layout : Layout) (u : SourceUnit) :
    renderUnit { layout with fileHeader := true } u =
      "\n".intercalate (headerTexts u ++ if u.pieces.isEmpty then []
        else [renderUnit { layout with fileHeader := false } u]) := by
  have htexts : ∀ header,
      u.pieces.map (Piece.text u.namePlan { layout with fileHeader := header }) =
        u.pieces.map (Piece.text u.namePlan layout) := fun header =>
    List.map_congr_left fun d hd => text_fileHeader hd u.namePlan layout header
  have hon := renderUnit_eq_intercalate { layout with fileHeader := true } u
  have hoff := renderUnit_eq_intercalate { layout with fileHeader := false } u
  rw [htexts] at hon hoff
  by_cases hpieces : u.pieces = []
  · rw [hon, hpieces]
    rfl
  · have hsome : u.pieces.map (Piece.text u.namePlan layout) ≠ [] := by simpa using hpieces
    have hne : u.pieces.isEmpty = false := by simpa using hpieces
    rw [hon, hoff, hne]
    exact intercalate_append_joined (headerTexts u) _ hsome

/-- **A file is its blocks with empty lines between them.**  The blocks are the package line, the
sorted import lines and the declarations in their order, each as the unit's name plan has it; the
first two are there if they are not empty and the layout wants a header.  The writer's output is the
same text.  A block is made of whole lines and does not start with an empty one.  So a file with its
header is the file without it, put after the blocks of the header. -/
theorem renderUnit_eq_blocks (layout : Layout) (u : SourceUnit) :
    let declarations := u.pieces.map (Piece.text u.namePlan layout)
    let blocks := (if layout.fileHeader then headerTexts u else []) ++ declarations
    renderUnit layout u = "\n".intercalate blocks ∧
      (Writer.write { layout } (.unit u)).output = "\n".intercalate blocks ∧
      u.imports.Pairwise (· < ·) ∧ (∀ block ∈ blocks, IsBlock block) ∧
      renderUnit { layout with fileHeader := true } u =
        "\n".intercalate (headerTexts u ++ if u.pieces.isEmpty then []
          else [renderUnit { layout with fileHeader := false } u]) := by
  intro declarations blocks
  have hfile : renderUnit layout u = "\n".intercalate blocks := renderUnit_eq_intercalate layout u
  have hwritten := (output_write_unit layout u).trans hfile
  refine ⟨hfile, hwritten, pairwise_imports u, ?_, renderUnit_fileHeader layout u⟩
  intro block hblock
  rcases List.mem_append.1 hblock with hheader | hdeclaration
  · split at hheader
    · exact isBlock_of_mem_headerTexts hheader
    · simp at hheader
  · obtain ⟨d, hd, rfl⟩ := List.mem_map.1 hdeclaration
    exact isBlock_text u.namePlan layout hd

end Blueprint.Kotlin
