import Blueprint.Kotlin.File
import Blueprint.Proofs.Kotlin.Layout
import Mathlib.Data.List.Induction
import Mathlib.Data.List.TakeWhile

/-!
# The writer appends

The writer carries a depth, a name plan and its output through many nested helpers, and each of them
may leave early.  A helper that forgot to come back from a deeper level, or used an old plan, would
spoil only what is written after it.  `write_appends_rendered` says that none does: whatever was
written before, a step adds the text of its piece and nothing of the writer but its plan and its
output is different afterwards.

`Writes` says of an action which lines it appends, at whatever depth it starts, and that it changes
nothing else.  It goes through sequences, loops and branches, and through going deeper and coming
back (`Writes.deeper`), so each helper has one lemma that follows its text and ends at the lines of
the declaration.  A whole unit is written block by block; there the flag that says whether the file
is still empty is part of the statement (`WritesBlocks`).  The last section takes the steps
together: between two of them the writer is `AtRest`.
-/

namespace Blueprint.Kotlin

open Blueprint.Text

/-! ## Appended lines -/

/-- The line, `n` levels deeper. -/
def Line.sunk (n : Nat) (l : Line) : Line :=
  { l with depth := l.depth + n }

/-- The writer after some lines more, at the depth that it has reached. -/
def Writer.append (w : Writer) (ls : List Line) : Writer :=
  { w with output := w.output ++ linesText w.layout.indentWidth (ls.map (Line.sunk w.indent)) }

@[simp] lemma Writer.append_nil (w : Writer) : w.append [] = w := by
  simp [Writer.append]

lemma Writer.append_append (w : Writer) (ls ms : List Line) :
    w.append (ls ++ ms) = (w.append ls).append ms := by
  simp [Writer.append, String.append_assoc]

/-- Under this plan and layout the action appends these lines, at whatever depth the writer stands,
and changes nothing else. -/
def Writes (plan : NamePlan) (layout : Layout) (action : Writing) (ls : List Line) : Prop :=
  ∀ w : Writer, w.plan = plan → w.layout = layout → action.run w = ((), w.append ls)

namespace Writes

variable {plan : NamePlan} {layout : Layout} {a b : Writing} {ls ms : List Line}

lemma pure : Writes plan layout (pure ()) [] := by
  intro w _ _
  rw [Writer.append_nil]
  rfl

lemma bind (ha : Writes plan layout a ls) (hb : Writes plan layout b ms) :
    Writes plan layout (a >>= fun _ => b) (ls ++ ms) := by
  intro w hplan hlayout
  have hfirst := ha w hplan hlayout
  have hsecond := hb (w.append ls) hplan hlayout
  rw [StateT.run_bind, hfirst, Writer.append_append]
  exact hsecond

lemma get {k : Writer → Writing}
    (h : ∀ w : Writer, w.plan = plan → w.layout = layout → Writes plan layout (k w) ls) :
    Writes plan layout (MonadState.get >>= k) ls :=
  fun w hplan hlayout => h w hplan hlayout w hplan hlayout

lemma forM {α : Type} {act : α → Writing} {linesOf : α → List Line} {items : List α}
    (h : ∀ x ∈ items, Writes plan layout (act x) (linesOf x)) :
    Writes plan layout (items.forM act) (items.flatMap linesOf) := by
  induction items with
  | nil => exact pure
  | cons x rest ih =>
    have hfirst := h x List.mem_cons_self
    have hrest := ih fun y hy => h y (List.mem_cons_of_mem x hy)
    exact hfirst.bind hrest

lemma ite {c : Prop} [Decidable c] (ha : c → Writes plan layout a ls)
    (hb : ¬c → Writes plan layout b ms) :
    Writes plan layout (if c then a else b) (if c then ls else ms) := by
  split
  · exact ha ‹_›
  · exact hb ‹_›

lemma line (text : String) : Writes plan layout (writeLine text) [line text] := by
  intro w _ _
  have hrun : (writeLine text).run w =
      ((), { w with
        output := w.output ++ (if text.isEmpty then ""
          else String.ofList (List.replicate (w.indent * w.layout.indentWidth) ' ') ++ text) ++
            "\n" }) := rfl
  rw [hrun]
  by_cases htext : text.isEmpty = true
  · simp [Writer.append, Kotlin.line, Line.sunk, Line.render, htext]
  · simp [Writer.append, Kotlin.line, Line.sunk, Line.render, htext, String.append_assoc]

lemma blank : Writes plan layout writeBlank [blankLine] := by
  intro w _ _
  have hrun : writeBlank.run w = ((), { w with output := w.output ++ "\n" }) := rfl
  rw [hrun]
  simp [Writer.append, blankLine, Kotlin.line, Line.sunk, Line.render]

variable (plan layout) in
/-- A loop that writes one line for each item. -/
lemma forM_line {α : Type} (textOf : α → String) (items : List α) :
    Writes plan layout (items.forM fun x => writeLine (textOf x))
      (items.map (Kotlin.line ∘ textOf)) := by
  have hloop : Writes plan layout (items.forM fun x => writeLine (textOf x))
      (items.flatMap fun x => [(Kotlin.line ∘ textOf) x]) := forM fun x _ => line (textOf x)
  rwa [← List.map_eq_flatMap] at hloop

/-- What is written between going deeper and coming back stands one level deeper, and the depth is
the old one afterwards. -/
lemma deeper (ha : Writes plan layout a ls) :
    Writes plan layout (indentMore >>= fun _ => a >>= fun _ => indentLess) (indented ls) := by
  intro w hplan hlayout
  have hinner := ha { w with indent := w.indent + 1 } hplan hlayout
  have hrun : (indentMore >>= fun _ => a >>= fun _ => indentLess).run w =
      indentLess.run (a.run { w with indent := w.indent + 1 }).2 := rfl
  have hdepth : (indented ls).map (Line.sunk w.indent) = ls.map (Line.sunk (w.indent + 1)) := by
    simp [indented, Line.sunk, Line.deeper, Nat.add_assoc, Nat.add_comm 1]
  have happend : w.append (indented ls) = { w with
      output := w.output ++
        linesText w.layout.indentWidth (ls.map (Line.sunk (w.indent + 1))) } := by
    rw [Writer.append, hdepth]
  rw [hrun, hinner, happend]
  rfl

lemma deeper_bind (ha : Writes plan layout a ls) (hb : Writes plan layout b ms) :
    Writes plan layout (indentMore >>= fun _ => a >>= fun _ => indentLess >>= fun _ => b)
      (indented ls ++ ms) := by
  simpa only [bind_assoc] using ha.deeper.bind hb

end Writes

/-! ## Helpers -/

section Helpers

variable (plan : NamePlan) (layout : Layout)

lemma writes_doc (doc : String) : Writes plan layout (writeDoc doc) (docComment doc) := by
  unfold writeDoc docComment
  cases (commentLines doc.toList).map String.ofList with
  | nil => exact .pure
  | cons first rest =>
    cases rest with
    | nil => exact .line _
    | cons second rest =>
      have hlines := Writes.forM_line plan layout
        (fun l : String => if l.isEmpty then " *" else " * " ++ l) (first :: second :: rest)
      exact (Writes.line "/**").bind (hlines.bind (.line " */"))

lemma writes_propertyDocs (docs : List (String × String)) :
    Writes plan layout (writePropertyDocs docs) (propertyComment docs) := by
  unfold writePropertyDocs propertyComment
  cases docs with
  | nil => exact .pure
  | cons doc docs =>
    simp only [List.map_cons, List.isEmpty_cons, Bool.false_eq_true, if_false]
    exact writes_doc plan layout _

/-- The loop over the entries with their indices puts a comma where `commaLines` does.  The entries
from some index on are the ones that the induction is about. -/
lemma map_zipIdx_eq_commaLines (trailing : Bool) (entries : List String) (start : Nat) :
    (entries.zipIdx start).map (fun p => line
      (if p.2 < start + entries.length - 1 || trailing then p.1 ++ "," else p.1)) =
        commaLines trailing entries := by
  induction entries generalizing start with
  | nil => rfl
  | cons entry rest ih =>
    cases rest with
    | nil => simp [commaLines]
    | cons next rest =>
      have hlength : start + (entry :: next :: rest).length - 1 =
          start + 1 + (next :: rest).length - 1 := by
        simp only [List.length_cons]
        omega
      have hstart : start < start + 1 + (next :: rest).length - 1 := by
        simp only [List.length_cons]
        omega
      have hcomma : commaLines trailing (entry :: next :: rest) =
          line (entry ++ ",") :: commaLines trailing (next :: rest) := rfl
      rw [List.zipIdx_cons, List.map_cons, hlength, ih (start + 1), hcomma]
      simp only [hstart, decide_true, Bool.true_or, if_true]

lemma writes_entries (entries : List String) :
    Writes plan layout (writeEntries entries) (commaLines layout.trailingCommas entries) := by
  refine Writes.get fun w _ hlayout => ?_
  have hlines := map_zipIdx_eq_commaLines layout.trailingCommas entries 0
  rw [Nat.zero_add] at hlines
  rw [hlayout, ← hlines]
  exact Writes.forM_line plan layout _ entries.zipIdx

lemma writes_parameterList (head : String) (entries : List String) (tail : String) :
    Writes plan layout (writeParameterList head entries tail)
      (parameterList layout head entries tail) := by
  unfold writeParameterList
  cases entries with
  | nil =>
    have htext : head ++ "(" ++ String.join [] ++ ")" ++ tail = head ++ "()" ++ tail := by
      simp [← String.toList_inj]
    rw [if_pos (by decide), htext]
    exact .line _
  | cons entry rest =>
    cases rest with
    | nil =>
      rw [if_pos (by simp), String.join_cons, String.join_nil, String.append_empty]
      exact .line _
    | cons next rest =>
      have hlong : ¬ (entry :: next :: rest).length < 2 := by
        simp only [List.length_cons]
        omega
      rw [if_neg hlong]
      have hentries := writes_entries plan layout (entry :: next :: rest)
      exact (Writes.line (head ++ "(")).bind (hentries.deeper_bind (.line (")" ++ tail)))

/-! ## Models -/

lemma writes_record (keyword name : String) (typeParams : List TypeParameter)
    (properties : List Property) (conformance : String) :
    Writes plan layout (writeRecord keyword name typeParams properties conformance)
      (recordLines plan layout keyword name typeParams properties conformance) := by
  refine Writes.get fun w hplan _ => ?_
  rw [hplan]
  refine (writes_propertyDocs plan layout (documented properties)).bind ?_
  cases properties with
  | nil =>
    have htext : "class " ++ escape name ++ genericClause plan typeParams ++ "()" =
        "class" ++ " " ++ escape name ++ genericClause plan typeParams ++ "()" := rfl
    simp only [List.isEmpty_nil, if_true, htext]
    exact .line _
  | cons property properties =>
    simp only [List.isEmpty_cons, Bool.false_eq_true, if_false]
    exact writes_parameterList plan layout _ _ _

lemma writes_variant (typeParams : List TypeParameter) (conformance : String) (v : Variant) :
    Writes plan layout
      (if v.properties.isEmpty && typeParams.isEmpty then
        writeLine ("data object " ++ escape v.name ++ conformance)
      else writeRecord dataKeyword v.name typeParams v.properties conformance)
      (variantLines plan layout typeParams conformance v) :=
  .ite (fun _ => .line _) fun _ => writes_record plan layout _ _ _ _ _

lemma writes_sealed (name : String) (typeParams : List TypeParameter) (variants : List Variant) :
    Writes plan layout (writeSealed name typeParams variants)
      (separated ([line ("sealed interface " ++ escape name ++ genericClause plan typeParams ++
          whereClause plan typeParams)] ::
        variants.map (variantLines plan layout typeParams
          (" : " ++ escape name ++ forwardedArgs typeParams)))) := by
  refine Writes.get fun w hplan _ => ?_
  rw [hplan, separated_cons, following, List.flatMap_map]
  refine (Writes.line _).bind (.forM fun v _ => ?_)
  exact Writes.blank.bind (writes_variant plan layout typeParams _ v)

lemma writes_enum (name : String) (package : String) (values : List String) :
    Writes plan layout (writeEnum name values)
      (modelLines plan layout ⟨name, package, .enum values⟩) := by
  cases values with
  | nil => exact .line _
  | cons value values =>
    have hentries := writes_entries plan layout ((value :: values).map escape)
    exact (Writes.line _).bind (hentries.deeper_bind (.line "\x7d"))

lemma writes_model (m : Model) :
    Writes plan layout (writeModel m) (modelLines plan layout m) := by
  obtain ⟨name, package, shape⟩ := m
  refine Writes.get fun w _ hlayout => ?_
  rw [hlayout]
  cases shape with
  | valueObject typeParams properties wrapper => exact writes_record plan layout _ _ _ _ _
  | entity typeParams properties => exact writes_record plan layout _ _ _ _ _
  | sealedHierarchy typeParams variants => exact writes_sealed plan layout name typeParams variants
  | enum values => exact writes_enum plan layout name package values

/-! ## Methods -/

lemma writes_methodHeader (m : Method) :
    Writes plan layout (writeMethodHeader m)
      (m.doc?.elim [] docComment ++ m.annotations.map (line ∘ annotationText)) := by
  have hannotations := Writes.forM_line plan layout annotationText m.annotations
  unfold writeMethodHeader
  cases m.doc? with
  | none => exact hannotations
  | some doc =>
    simp only [Option.elim_some]
    exact (writes_doc plan layout doc).bind hannotations

lemma trim_eq_nil_iff {s : List Char} : trim s = [] ↔ trimEnd s = [] := by
  have hleft : (∀ c ∈ s.dropWhile isBlank, isBlank c = true) ↔ ∀ c ∈ s, isBlank c = true := by
    constructor
    · intro h
      -- what is left would start with a character that is not blank
      have hnil : s.dropWhile isBlank = [] := by
        by_contra hne
        have hhead := List.head_dropWhile_not isBlank hne
        rw [h _ (List.head_mem hne)] at hhead
        cases hhead
      exact List.dropWhile_eq_nil_iff.1 hnil
    · intro h c hc
      exact h c ((List.dropWhile_suffix isBlank).subset hc)
  simpa [trim, trimEnd, trimStart, List.dropWhile_eq_nil_iff] using hleft

lemma writes_methodBody (head : String) (body? : Option String) :
    Writes plan layout (writeMethodBody head body?)
      (line (head ++ " \x7b") :: indented (bodyLines body?) ++ [line "\x7d"]) := by
  refine (Writes.line (head ++ " \x7b")).bind ?_
  unfold bodyLines
  by_cases hbody : trimEnd (body?.getD "").toList = []
  · have htrim := trim_eq_nil_iff.2 hbody
    simp only [hbody, htrim, List.isEmpty_nil, if_true]
    exact (Writes.line placeholderBody).deeper_bind (.line "\x7d")
  · have htrim := mt trim_eq_nil_iff.1 hbody
    simp only [List.isEmpty_iff, hbody, htrim, if_false]
    exact (Writes.forM_line plan layout _ _).deeper_bind (.line "\x7d")

lemma writes_method (mode : MemberMode) (m : Method) :
    Writes plan layout
      (do
        writeMethodHeader m
        let head := methodHead (← get).plan (mode = .overriding) m
        if mode = .inInterface ∧ m.isAbstract then
          writeLine head
        else
          writeMethodBody head m.body?)
      (methodLines plan mode m) := by
  refine (writes_methodHeader plan layout m).bind (.get fun w hplan _ => ?_)
  rw [hplan]
  exact .ite (fun _ => .line _) fun _ => writes_methodBody plan layout _ _

/-- The loop over the methods writes an empty line before each but the first. -/
lemma flatMap_zipIdx_eq_separated {α : Type} (linesOf : α → List Line) (items : List α) :
    (items.zipIdx.flatMap fun p => (if 0 < p.2 then [blankLine] else []) ++ linesOf p.1) =
      separated (items.map linesOf) := by
  have hlater : ∀ (items : List α) (start : Nat), 0 < start →
      (items.zipIdx start).flatMap
        (fun p => (if 0 < p.2 then [blankLine] else []) ++ linesOf p.1) =
          following (items.map linesOf) := by
    intro items
    induction items with
    | nil => intro start _; rfl
    | cons x rest ih =>
      intro start hstart
      rw [List.zipIdx_cons, List.flatMap_cons, ih (start + 1) (by omega), if_pos hstart]
      rfl
  cases items with
  | nil => rfl
  | cons x rest =>
    rw [List.zipIdx_cons, List.flatMap_cons, hlater rest (0 + 1) (by omega), List.map_cons,
      separated_cons]
    rfl

lemma writes_members (mode : MemberMode) (methods : List Method) :
    Writes plan layout (writeMembers mode methods) (memberLines plan mode methods) := by
  have hloop : Writes plan layout
      (methods.zipIdx.forM fun p => do
        if 0 < p.2 then
          writeBlank
        writeMethodHeader p.1
        let head := methodHead (← get).plan (mode = .overriding) p.1
        if mode = .inInterface ∧ p.1.isAbstract then
          writeLine head
        else
          writeMethodBody head p.1.body?)
      (separated (methods.map (methodLines plan mode))) := by
    rw [← flatMap_zipIdx_eq_separated]
    refine .forM fun p _ => ?_
    have hmethod := writes_method plan layout mode p.1
    by_cases hfirst : 0 < p.2
    · simp only [hfirst, if_true]
      exact Writes.blank.bind hmethod
    · simp only [hfirst, if_false]
      exact hmethod
  exact hloop.deeper

/-! ## Ports, adapters and services -/

lemma writes_port (p : Port) : Writes plan layout (writePort p) (portLines plan p) := by
  refine Writes.get fun w hplan _ => ?_
  rw [hplan]
  refine .ite (fun _ => .line _) fun _ => ?_
  exact (Writes.line _).bind ((writes_members plan layout _ _).bind (.line "\x7d"))

lemma writes_classBody (mode : MemberMode) (methods : List Method) :
    Writes plan layout
      (unless methods.isEmpty do
        writeMembers mode methods
        writeLine "\x7d")
      (if methods.isEmpty then [] else memberLines plan mode methods ++ [line "\x7d"]) :=
  .ite (fun _ => .pure) fun _ => (writes_members plan layout mode methods).bind (.line "\x7d")

lemma writes_adapter (a : Adapter) (port? : Option Port) :
    Writes plan layout (writeAdapter a port?) (adapterLines plan layout a port?) := by
  refine Writes.get fun w hplan _ => ?_
  rw [hplan]
  have hbody := writes_classBody plan layout .overriding (a.overrides port?)
  unfold adapterLines
  by_cases hparams : a.constructorParams = []
  · simp only [hparams, List.map_nil, List.isEmpty_nil, if_true]
    exact (Writes.line _).bind hbody
  · simp only [List.isEmpty_iff, List.map_eq_nil_iff, hparams, if_false]
    have hlist := writes_parameterList plan layout
    simp only [List.isEmpty_iff] at hbody
    exact (hlist _ _ _).bind hbody

lemma writes_service (s : Service) :
    Writes plan layout (writeService s) (serviceLines plan layout s) := by
  refine Writes.get fun w hplan _ => ?_
  rw [hplan]
  have hdocs := writes_propertyDocs plan layout (documentedPorts s.ports)
  have hannotations := Writes.forM_line plan layout annotationText s.annotations
  have hlist := writes_parameterList plan layout ("class " ++ escape s.name)
    (s.constructorParams.map fun p => "val " ++ parameterText plan p)
    (if s.methods.isEmpty then "" else " \x7b")
  have hbody := writes_classBody plan layout .inClass s.methods
  have hall := hdocs.bind (hannotations.bind (hlist.bind hbody))
  simpa only [serviceLines, List.append_assoc] using hall

end Helpers

/-! ## Blocks -/

/-- Under this plan and layout the action appends these blocks to a file of which `first` says
whether it is still empty.  It returns whether the file is empty afterwards. -/
def WritesBlocks (plan : NamePlan) (layout : Layout) (first : Bool) (action : StateM Writer Bool)
    (blocks : List (List Line)) : Prop :=
  ∀ w : Writer, w.plan = plan → w.layout = layout →
    action.run w = (first && blocks.isEmpty, w.append (placed first blocks))

namespace WritesBlocks

variable {plan : NamePlan} {layout : Layout} {first : Bool} {a b : StateM Writer Bool}
  {blocks others : List (List Line)}

lemma skip : WritesBlocks plan layout first (pure first) [] := by
  intro w _ _
  have hplaced : placed first [] = [] := by cases first <;> rfl
  rw [hplaced, Writer.append_nil, List.isEmpty_nil, Bool.and_true]
  rfl

lemma bind {k : Bool → StateM Writer Bool} (ha : WritesBlocks plan layout first a blocks)
    (hk : ∀ next, WritesBlocks plan layout next (k next) others) :
    WritesBlocks plan layout first (a >>= k) (blocks ++ others) := by
  intro w hplan hlayout
  have hfirst := ha w hplan hlayout
  have hsecond := hk (first && blocks.isEmpty) (w.append (placed first blocks)) hplan hlayout
  have hempty : (blocks ++ others).isEmpty = (blocks.isEmpty && others.isEmpty) := by
    cases blocks <;> rfl
  rw [StateT.run_bind, hfirst, placed_append, Writer.append_append, hempty, ← Bool.and_assoc]
  exact hsecond

lemma get {k : Writer → StateM Writer Bool}
    (h : ∀ w : Writer, w.plan = plan → w.layout = layout →
      WritesBlocks plan layout first (k w) blocks) :
    WritesBlocks plan layout first (MonadState.get >>= k) blocks :=
  fun w hplan hlayout => h w hplan hlayout w hplan hlayout

lemma ite {c : Prop} [Decidable c] (ha : c → WritesBlocks plan layout first a blocks)
    (hb : ¬c → WritesBlocks plan layout first b others) :
    WritesBlocks plan layout first (if c then a else b) (if c then blocks else others) := by
  split
  · exact ha ‹_›
  · exact hb ‹_›

/-- A block comes after an empty line, unless the file is still empty. -/
lemma one {action : Writing} {block : List Line} (h : Writes plan layout action block) :
    WritesBlocks plan layout first
      (do
        unless first do
          writeBlank
        action
        return false)
      [block] := by
  intro w hplan hlayout
  cases first with
  | true =>
    have hrun := h w hplan hlayout
    have hplaced : placed true [block] = block := by simp [placed, separated]
    show (action >>= fun _ => pure false).run w = _
    rw [hplaced, StateT.run_bind, hrun]
    rfl
  | false =>
    have hrun := (Writes.blank.bind h) w hplan hlayout
    have hplaced : placed false [block] = [blankLine] ++ block := by simp [placed]
    show ((writeBlank >>= fun _ => action) >>= fun _ => pure false).run w = _
    rw [hplaced, StateT.run_bind, hrun]
    rfl

lemma foldlM {α : Type} {write : α → Writing} {linesOf : α → List Line}
    (h : ∀ x, Writes plan layout (write x) (linesOf x)) (items : List α) (first : Bool) :
    WritesBlocks plan layout first (writeBlocks write first items) (items.map linesOf) := by
  induction items generalizing first with
  | nil => exact skip
  | cons x rest ih => exact (one (h x)).bind fun next => ih next

end WritesBlocks

section Units

variable (layout : Layout) (u : SourceUnit)

lemma writesBlocks_package (plan : NamePlan) :
    WritesBlocks plan layout true (writePackage u)
      (if u.package.isEmpty then [] else [[line ("package " ++ escapePath u.package)]]) :=
  .ite (fun _ => .skip) fun _ => .one (.line _)

lemma writesBlocks_imports (plan : NamePlan) (first : Bool) :
    WritesBlocks plan layout first (writeImports first)
      (if plan.imports.isEmpty then []
      else [plan.imports.map fun path => line ("import " ++ escapePath path)]) := by
  refine WritesBlocks.get fun w hplan _ => ?_
  rw [hplan]
  exact .ite (fun _ => .skip) fun _ => .one (.forM_line plan layout _ _)

lemma writesBlocks_header :
    WritesBlocks u.namePlan layout true (writeHeader u)
      (if layout.fileHeader then headerBlocks u else []) := by
  refine WritesBlocks.get fun w _ hlayout => ?_
  rw [hlayout]
  refine .ite (fun _ => ?_) fun _ => .skip
  exact (writesBlocks_package layout u _).bind fun next => writesBlocks_imports layout _ next

/-- A whole unit puts its own plan in force and appends the lines of its file. -/
lemma run_writeUnit (w : Writer) :
    (writeUnit u).run w = ((), { w with plan := u.namePlan }.append (fileLines w.layout u)) := by
  have hmodels := WritesBlocks.foldlM (writes_model u.namePlan w.layout) u.models
  have hports := WritesBlocks.foldlM (writes_port u.namePlan w.layout) u.ports
  have hadapters := WritesBlocks.foldlM
    (fun a => writes_adapter u.namePlan w.layout a (u.portOf? a)) u.adapters
  have hservices := WritesBlocks.foldlM (writes_service u.namePlan w.layout) u.services
  have hblocks := (writesBlocks_header w.layout u).bind fun next => (hmodels next).bind
    fun next => (hports next).bind fun next => (hadapters next).bind hservices
  have hfile : (if w.layout.fileHeader then headerBlocks u else []) ++
      (u.models.map (modelLines u.namePlan w.layout) ++ (u.ports.map (portLines u.namePlan) ++
        (u.adapters.map (fun a => adapterLines u.namePlan w.layout a (u.portOf? a)) ++
          u.services.map (serviceLines u.namePlan w.layout)))) = fileBlocks w.layout u := by
    simp only [fileBlocks, declarationBlocks, List.append_assoc]
  rw [hfile] at hblocks
  have hrun := congrArg Prod.snd (hblocks { w with plan := u.namePlan } rfl rfl)
  exact congrArg (Prod.mk ()) hrun

end Units

/-! ## Steps and runs -/

/-- The unit that a piece is, if it is a whole one. -/
def Piece.unit? : Piece → Option SourceUnit
  | .unit u => some u
  | _ => none

/-- The unit that was written last, if any was. -/
def lastUnit? (steps : List Piece) : Option SourceUnit :=
  (steps.filterMap Piece.unit?).getLast?

/-- The name plan in force after some steps: that of the unit written last. -/
def planAfter (steps : List Piece) : NamePlan :=
  (lastUnit? steps).elim {} SourceUnit.namePlan

lemma lastUnit?_concat (steps : List Piece) (p : Piece) :
    lastUnit? (steps ++ [p]) = p.unit?.or (lastUnit? steps) := by
  cases p <;> simp [lastUnit?, Piece.unit?]

/-- A step from depth zero appends the text of its piece and returns to depth zero. -/
lemma Writer.write_eq (w : Writer) (p : Piece) (hindent : w.indent = 0) :
    w.write p = { w with
      plan := p.unit?.elim w.plan SourceUnit.namePlan
      output := w.output ++ p.text w.plan w.layout } := by
  have hsunk : ∀ ls : List Line, ls.map (Line.sunk 0) = ls := fun ls => List.map_id ls
  -- a piece that is no unit leaves the plan as it is
  have hpiece : ∀ action ls, Writes w.plan w.layout action ls →
      (action.run w).2 =
        { w with output := w.output ++ linesText w.layout.indentWidth ls } := by
    intro action ls h
    rw [h w rfl rfl, Writer.append, hindent, hsunk]
  cases p with
  | model m => exact hpiece _ _ (writes_model w.plan w.layout m)
  | port p => exact hpiece _ _ (writes_port w.plan w.layout p)
  | adapter a port? => exact hpiece _ _ (writes_adapter w.plan w.layout a port?)
  | service s => exact hpiece _ _ (writes_service w.plan w.layout s)
  | unit u =>
    have hrun := congrArg Prod.snd (run_writeUnit u w)
    rw [Writer.append, hindent, hsunk] at hrun
    rw [hindent]
    exact hrun

/-- The state of a writer between two steps: nothing of it depends on what was written, apart from
the plan of the last unit and the output. -/
structure AtRest (layout : Layout) (steps : List Piece) (w : Writer) : Prop where
  layout_eq : w.layout = layout
  plan_eq : w.plan = planAfter steps
  indent_eq : w.indent = 0

lemma AtRest.write {layout : Layout} {steps : List Piece} {w : Writer} (h : AtRest layout steps w)
    (p : Piece) : AtRest layout (steps ++ [p]) (w.write p) := by
  have hwrite := w.write_eq p h.indent_eq
  have hplan : planAfter (steps ++ [p]) = p.unit?.elim (planAfter steps) SourceUnit.namePlan := by
    rw [planAfter, lastUnit?_concat]
    cases p.unit? <;> rfl
  constructor
  · rw [hwrite]
    exact h.layout_eq
  · rw [hwrite, hplan, ← h.plan_eq]
  · rw [hwrite]
    exact h.indent_eq

lemma atRest_foldl (layout : Layout) (steps : List Piece) :
    AtRest layout steps (steps.foldl Writer.write { layout }) := by
  induction steps using List.reverseRecOn with
  | nil => exact ⟨rfl, rfl, rfl⟩
  | append_singleton steps p ih =>
    rw [List.foldl_concat]
    exact ih.write p

/-- **The writer only appends, and forgets what it wrote.**  After any steps, one step more leaves
the output as the beginning of the new output and the indentation at zero.  A whole unit adds the
file of that unit.  Any other piece adds its text under the name plan of the unit written last, and
what it renders to on its own if no unit was written before. -/
theorem write_appends_rendered (layout : Layout) (steps : List Piece) (p : Piece) :
    let before : Writer := steps.foldl Writer.write { layout }
    let after := before.write p
    after.indent = 0 ∧ ∃ added, after.output = before.output ++ added ∧
      (∀ u, p = .unit u → added = renderUnit layout u) ∧
      (p.unit? = none →
        added = p.text ((lastUnit? steps).elim {} SourceUnit.namePlan) layout) ∧
      (p.unit? = none → lastUnit? steps = none → added = p.render layout) := by
  intro before after
  have hrest : AtRest layout steps before := atRest_foldl layout steps
  have hafter := before.write_eq p hrest.indent_eq
  have houtput : after.output = before.output ++ p.text (planAfter steps) layout := by
    rw [← hrest.plan_eq, ← hrest.layout_eq]
    exact congrArg Writer.output hafter
  refine ⟨(hrest.write p).indent_eq, p.text (planAfter steps) layout, houtput, ?_, ?_, ?_⟩
  · rintro u rfl
    rfl
  · intro _
    rfl
  · intro _ hnone
    rw [planAfter, hnone]
    rfl

end Blueprint.Kotlin
