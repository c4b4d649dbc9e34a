import Blueprint.Kotlin.File
import Blueprint.Proofs.DottedName
import Blueprint.Proofs.Kotlin.Layout
import Mathlib.Data.List.Forall2
import Mathlib.Data.List.TakeWhile

/-!
# The switches of the layout

Two layouts that agree on the header give the same file up to its layout: line by line and without
leading spaces, the two texts agree but for a last comma and the keyword of a class that wraps one
value (`renderUnit_alike`).

The comparison is made twice.  First on the lines that the writer puts together (`LinesAlike`),
kind by kind of declaration; only a list of entries and the head of a class have anything to do
there.  Then on the text, where such a line may fall apart into several, since names, default values
and bodies are arbitrary texts.  What is left of the lines of a text when their leading spaces are
dropped does not depend on the indentation at all (`stripped_linesText`): it stands in front of
the first of the parts, and an empty line has none to lose.
-/

namespace Blueprint.Kotlin

open Blueprint.Text

/-! ## Lines without leading spaces -/

/-- The text without its leading spaces. -/
def dropSpaces (text : List Char) : List Char :=
  text.dropWhile (· == ' ')

/-- The lines of a text, each without its leading spaces. -/
def stripped (text : List Char) : List (List Char) :=
  (splitOn '\n' text).map dropSpaces

/-- A text without a separator goes to the front of the first piece. -/
lemma exists_splitOn_append {sep : Char} {front : List Char} (h : sep ∉ front) (rest : List Char) :
    ∃ piece pieces, splitOn sep rest = piece :: pieces ∧
      splitOn sep (front ++ rest) = (front ++ piece) :: pieces := by
  induction front with
  | nil =>
    obtain ⟨piece, pieces, hrest⟩ := List.exists_cons_of_ne_nil (splitOn_ne_nil sep rest)
    exact ⟨piece, pieces, hrest, hrest⟩
  | cons c front ih =>
    have hc : c ≠ sep := fun heq => h (by simp [heq])
    obtain ⟨piece, pieces, hrest, hfront⟩ := ih fun hmem => h (List.mem_cons_of_mem c hmem)
    refine ⟨piece, pieces, hrest, ?_⟩
    rw [List.cons_append, splitOn, if_neg hc, hfront]
    rfl

lemma stripped_append_newline (text rest : List Char) :
    stripped (text ++ '\n' :: rest) = stripped text ++ stripped rest := by
  simp only [stripped, splitOn_append_cons, List.map_append]

lemma dropSpaces_spaces (n : Nat) (text : List Char) :
    dropSpaces (List.replicate n ' ' ++ text) = dropSpaces text := by
  refine List.dropWhile_append_of_pos fun c hc => ?_
  rw [List.eq_of_mem_replicate hc]
  rfl

lemma stripped_spaces (n : Nat) (text : List Char) :
    stripped (List.replicate n ' ' ++ text) = stripped text := by
  have hspaces : '\n' ∉ List.replicate n ' ' := fun hmem =>
    absurd (List.eq_of_mem_replicate hmem) (by decide)
  obtain ⟨piece, pieces, htext, hall⟩ := exists_splitOn_append hspaces text
  rw [stripped, stripped, hall, htext, List.map_cons, List.map_cons, dropSpaces_spaces]

/-- Indentation is gone from the stripped lines, whatever its width. -/
lemma stripped_linesText (width : Nat) (ls : List Line) :
    stripped (linesText width ls).toList =
      (ls.flatMap fun l => stripped l.text.toList) ++ [[]] := by
  induction ls with
  | nil => rfl
  | cons l ls ih =>
    have hline : ∃ n,
        (l.render width).toList = List.replicate n ' ' ++ l.text.toList ++ ['\n'] := by
      by_cases htext : l.text = ""
      · exact ⟨0, by simp [Line.render, htext]⟩
      · exact ⟨l.depth * width, by simp [Line.render, htext]⟩
    obtain ⟨n, hline⟩ := hline
    have hrest : (linesText width (l :: ls)).toList =
        (List.replicate n ' ' ++ l.text.toList) ++ '\n' :: (linesText width ls).toList := by
      simp [hline]
    rw [hrest, stripped_append_newline, stripped_spaces, ih, List.flatMap_cons, List.append_assoc]

/-! ## Texts that differ in layout only -/

/-- What the switches of `a` add to a text that those of `b` leave out: a comma at its end, or the
keyword of a class that wraps one value. -/
inductive Adds (a b : Layout) : List Char → List Char → Prop
  | comma (ha : a.trailingCommas = true) (hb : b.trailingCommas = false) (text : List Char) :
      Adds a b (text ++ [',']) text
  | keyword (ha : a.inlineValueClasses = true) (hb : b.inlineValueClasses = false)
      (rest : List Char) : Adds a b (valueKeyword.toList ++ rest) (dataKeyword.toList ++ rest)

/-- The texts under two layouts are equal, or one of the layouts adds something. -/
def Alike (a b : Layout) (s t : List Char) : Prop :=
  s = t ∨ Adds a b s t ∨ Adds b a t s

variable {a b : Layout}

namespace Alike

lemma refl (s : List Char) : Alike a b s s := Or.inl rfl

lemma symm {s t : List Char} (h : Alike a b s t) : Alike b a t s := by
  rcases h with heq | hleft | hright
  · exact Or.inl heq.symm
  · exact Or.inr (Or.inr hleft)
  · exact Or.inr (Or.inl hright)

lemma forall₂_refl (texts : List (List Char)) : List.Forall₂ (Alike a b) texts texts :=
  List.forall₂_same.2 fun s _ => refl s

end Alike

lemma stripped_of_not_mem {text : List Char} (h : '\n' ∉ text) :
    stripped text = [dropSpaces text] := by
  obtain ⟨piece, pieces, hnil, hall⟩ := exists_splitOn_append h []
  obtain ⟨rfl, rfl⟩ : piece = [] ∧ pieces = [] := by
    simpa [splitOn, eq_comm] using hnil
  rw [List.append_nil] at hall
  rw [stripped, hall]
  rfl

lemma dropSpaces_append_comma (text : List Char) :
    dropSpaces (text ++ [',']) = dropSpaces text ++ [','] := by
  induction text with
  | nil => rfl
  | cons c text ih =>
    by_cases hc : c = ' '
    · simpa [dropSpaces, hc] using ih
    · simp [dropSpaces, hc]

/-- A comma at the end of a text is one at the end of its last line. -/
lemma alike_stripped_comma (ha : a.trailingCommas = true) (hb : b.trailingCommas = false)
    (text : List Char) :
    List.Forall₂ (Alike a b) (stripped (text ++ [','])) (stripped text) := by
  have hlast : ∀ last : List Char, '\n' ∉ last →
      List.Forall₂ (Alike a b) (stripped (last ++ [','])) (stripped last) := by
    intro last hlast
    have hcomma : '\n' ∉ last ++ [','] := by simpa using hlast
    rw [stripped_of_not_mem hlast, stripped_of_not_mem hcomma, dropSpaces_append_comma]
    exact .cons (Or.inr (Or.inl (.comma ha hb _))) .nil
  by_cases hnewline : '\n' ∈ text
  · obtain ⟨before, last, rfl, hnot⟩ := exists_last_cut hnewline
    rw [List.append_assoc, List.cons_append, stripped_append_newline, stripped_append_newline]
    exact List.rel_append (Alike.forall₂_refl _) (hlast last hnot)
  · exact hlast text hnewline

/-- The keyword of a class stays at the front of the first line. -/
lemma exists_stripped_keyword (rest : List Char) : ∃ line lines,
    stripped (valueKeyword.toList ++ rest) = (valueKeyword.toList ++ line) :: lines ∧
      stripped (dataKeyword.toList ++ rest) = (dataKeyword.toList ++ line) :: lines := by
  have hvalue : '\n' ∉ valueKeyword.toList := by decide
  have hdata : '\n' ∉ dataKeyword.toList := by decide
  obtain ⟨piece, pieces, hrest, hv⟩ := exists_splitOn_append hvalue rest
  obtain ⟨piece', pieces', hrest', hd⟩ := exists_splitOn_append hdata rest
  obtain ⟨rfl, rfl⟩ : piece = piece' ∧ pieces = pieces' := by
    simpa [hrest] using hrest'
  refine ⟨piece, pieces.map dropSpaces, ?_, ?_⟩
  · rw [stripped, hv]
    rfl
  · rw [stripped, hd]
    rfl

lemma Adds.stripped {s t : List Char} (h : Adds a b s t) :
    List.Forall₂ (Alike a b) (stripped s) (stripped t) := by
  cases h with
  | comma ha hb text => exact alike_stripped_comma ha hb t
  | keyword ha hb rest =>
    obtain ⟨line, lines, hvalue, hdata⟩ := exists_stripped_keyword rest
    rw [hvalue, hdata]
    exact .cons (Or.inr (Or.inl (.keyword ha hb line))) (Alike.forall₂_refl lines)

/-- Texts that are alike are so line by line. -/
lemma Alike.stripped {s t : List Char} (h : Alike a b s t) :
    List.Forall₂ (Alike a b) (stripped s) (stripped t) := by
  rcases h with rfl | hleft | hright
  · exact forall₂_refl _
  · exact hleft.stripped
  · exact hright.stripped.flip.imp fun _ _ => Alike.symm

/-! ## Lines that differ in layout only -/

/-- The lines under two layouts are as many, and their texts are alike. -/
def LinesAlike (a b : Layout) : List Line → List Line → Prop :=
  List.Forall₂ fun l m => Alike a b l.text.toList m.text.toList

namespace LinesAlike

variable {ls ms ls' ms' : List Line}

lemma refl (ls : List Line) : LinesAlike a b ls ls :=
  List.forall₂_same.2 fun l _ => .refl l.text.toList

lemma append (h : LinesAlike a b ls ms) (h' : LinesAlike a b ls' ms') :
    LinesAlike a b (ls ++ ls') (ms ++ ms') :=
  List.rel_append h h'

lemma line {s t : String} (h : Alike a b s.toList t.toList) :
    LinesAlike a b [line s] [line t] :=
  .cons h .nil

lemma indented (h : LinesAlike a b ls ms) :
    LinesAlike a b (indented ls) (indented ms) := by
  unfold LinesAlike Kotlin.indented
  rw [List.forall₂_map_left_iff, List.forall₂_map_right_iff]
  exact h

variable {blocks blocks' : List (List Line)}

lemma following (h : List.Forall₂ (LinesAlike a b) blocks blocks') :
    LinesAlike a b (following blocks) (following blocks') := by
  induction h with
  | nil => exact .nil
  | @cons block block' _ _ hblock _ ih =>
    have hfirst : LinesAlike a b (blankLine :: block) (blankLine :: block') :=
      .cons (.refl _) hblock
    exact hfirst.append ih

lemma separated (h : List.Forall₂ (LinesAlike a b) blocks blocks') :
    LinesAlike a b (separated blocks) (separated blocks') := by
  cases h with
  | nil => exact .nil
  | cons hblock hrest =>
    rw [separated_cons, separated_cons]
    exact hblock.append (following hrest)

lemma blocks_map {α : Type} {f g : α → List Line} (h : ∀ x, LinesAlike a b (f x) (g x))
    (items : List α) : List.Forall₂ (LinesAlike a b) (items.map f) (items.map g) := by
  rw [List.forall₂_map_left_iff, List.forall₂_map_right_iff]
  exact List.forall₂_same.2 fun x _ => h x

end LinesAlike

/-! ## Declarations under two layouts -/

section Declarations

variable (a b) (plan : NamePlan)

lemma alike_commaLines (entries : List String) :
    LinesAlike a b (commaLines a.trailingCommas entries) (commaLines b.trailingCommas entries) := by
  induction entries with
  | nil => exact .nil
  | cons entry rest ih =>
    cases rest with
    | nil =>
      refine LinesAlike.line ?_
      have hcomma : (entry ++ ",").toList = entry.toList ++ [','] := by simp
      cases ha : a.trailingCommas <;> cases hb : b.trailingCommas
      · exact .refl _
      · exact Or.inr (Or.inr (hcomma ▸ .comma hb ha entry.toList))
      · exact Or.inr (Or.inl (hcomma ▸ .comma ha hb entry.toList))
      · exact .refl _
    | cons next rest => exact .cons (.refl _) ih

lemma alike_parameterList (head : String) (entries : List String) (tail : String) :
    LinesAlike a b (parameterList a head entries tail) (parameterList b head entries tail) := by
  cases entries with
  | nil => exact .refl _
  | cons entry rest =>
    cases rest with
    | nil => exact .refl _
    | cons next rest =>
      have hentries := (alike_commaLines a b (entry :: next :: rest)).indented
      exact .cons (.refl _) (hentries.append (.refl _))

lemma alike_recordLines (keyword name : String) (typeParams : List TypeParameter)
    (properties : List Property) (conformance : String) :
    LinesAlike a b (recordLines plan a keyword name typeParams properties conformance)
      (recordLines plan b keyword name typeParams properties conformance) :=
  (LinesAlike.refl _).append (alike_parameterList a b _ _ _)

/-- A class around one value has no list of entries on several lines, so the keyword is all that two
layouts can make different about it. -/
lemma exists_recordLines_one (name : String) (typeParams : List TypeParameter)
    (property : Property) (conformance : String) : ∃ rest, ∀ (layout : Layout) (keyword : String),
      recordLines plan layout keyword name typeParams [property] conformance =
        propertyComment (documented [property]) ++ [line (keyword ++ rest)] := by
  refine ⟨" " ++ escape name ++ genericClause plan typeParams ++ "(" ++
    propertyText plan property ++ ")" ++ (conformance ++ whereClause plan typeParams), ?_⟩
  intro layout keyword
  simp only [recordLines, parameterList, List.map_cons, List.map_nil, List.isEmpty_cons,
    Bool.false_eq_true, if_false, String.append_assoc]

lemma alike_inlineKeyword (rest : String) :
    Alike a b ((if a.inlineValueClasses then valueKeyword else dataKeyword) ++ rest).toList
      ((if b.inlineValueClasses then valueKeyword else dataKeyword) ++ rest).toList := by
  rw [String.toList_append, String.toList_append]
  cases ha : a.inlineValueClasses <;> cases hb : b.inlineValueClasses
  · exact .refl _
  · exact Or.inr (Or.inr (.keyword hb ha rest.toList))
  · exact Or.inr (Or.inl (.keyword ha hb rest.toList))
  · exact .refl _

lemma alike_valueObject (name : String) (typeParams : List TypeParameter)
    (properties : List Property) (wrapper : Bool) :
    LinesAlike a b
      (recordLines plan a (valueObjectKeyword a wrapper properties) name typeParams properties "")
      (recordLines plan b (valueObjectKeyword b wrapper properties) name typeParams properties
        "") := by
  cases hwraps : wrapper && wrapsOneValue properties with
  | false =>
    simp only [valueObjectKeyword, hwraps, Bool.false_and, Bool.false_eq_true, if_false]
    exact alike_recordLines a b plan _ _ _ _ _
  | true =>
    obtain ⟨property, rfl⟩ : ∃ property, properties = [property] := by
      rcases properties with _ | ⟨property, _ | ⟨next, rest⟩⟩
      · simp [wrapsOneValue] at hwraps
      · exact ⟨property, rfl⟩
      · simp [wrapsOneValue] at hwraps
    obtain ⟨rest, hlines⟩ := exists_recordLines_one plan name typeParams property ""
    simp only [valueObjectKeyword, hwraps, Bool.true_and, hlines]
    exact (LinesAlike.refl _).append (.line (alike_inlineKeyword a b rest))

lemma alike_variantLines (typeParams : List TypeParameter) (conformance : String) (v : Variant) :
    LinesAlike a b (variantLines plan a typeParams conformance v)
      (variantLines plan b typeParams conformance v) := by
  unfold variantLines
  by_cases hobject : (v.properties.isEmpty && typeParams.isEmpty) = true
  · rw [if_pos hobject, if_pos hobject]
    exact .refl _
  · rw [if_neg hobject, if_neg hobject]
    exact alike_recordLines a b plan _ _ _ _ _

lemma alike_modelLines (m : Model) :
    LinesAlike a b (modelLines plan a m) (modelLines plan b m) := by
  unfold modelLines
  cases m.shape with
  | valueObject typeParams properties wrapper => exact alike_valueObject a b plan _ _ _ _
  | entity typeParams properties => exact alike_recordLines a b plan _ _ _ _ _
  | sealedHierarchy typeParams variants =>
    have hvariants := LinesAlike.blocks_map (alike_variantLines a b plan typeParams
      (" : " ++ escape m.name ++ forwardedArgs typeParams)) variants
    exact LinesAlike.separated (.cons (.refl _) hvariants)
  | enum values =>
    cases values with
    | nil => exact .refl _
    | cons value values =>
      have hvalues := (alike_commaLines a b ((value :: values).map escape)).indented
      exact .cons (.refl _) (hvalues.append (.refl _))

lemma alike_adapterLines (x : Adapter) (port? : Option Port) :
    LinesAlike a b (adapterLines plan a x port?) (adapterLines plan b x port?) := by
  refine LinesAlike.append ?_ (.refl _)
  by_cases hempty :
      (x.constructorParams.map fun p => "private val " ++ parameterText plan p).isEmpty = true
  · rw [if_pos hempty, if_pos hempty]
    exact .refl _
  · rw [if_neg hempty, if_neg hempty]
    exact alike_parameterList a b _ _ _

lemma alike_serviceLines (s : Service) :
    LinesAlike a b (serviceLines plan a s) (serviceLines plan b s) := by
  refine LinesAlike.append ?_ (.refl _)
  exact (LinesAlike.refl _).append (alike_parameterList a b _ _ _)

end Declarations

/-! ## Files under two layouts -/

lemma alike_declarationBlocks (plan : NamePlan) (u : SourceUnit) :
    List.Forall₂ (LinesAlike a b) (declarationBlocks plan a u) (declarationBlocks plan b u) := by
  have hmodels := LinesAlike.blocks_map (alike_modelLines a b plan) u.models
  have hport : ∀ p, LinesAlike a b (portLines plan p) (portLines plan p) := fun _ => .refl _
  have hports := LinesAlike.blocks_map hport u.ports
  have hadapters := LinesAlike.blocks_map
    (fun x => alike_adapterLines a b plan x (u.portOf? x)) u.adapters
  have hservices := LinesAlike.blocks_map (alike_serviceLines a b plan) u.services
  exact List.rel_append (List.rel_append (List.rel_append hmodels hports) hadapters) hservices

lemma alike_fileLines (h : a.fileHeader = b.fileHeader) (u : SourceUnit) :
    LinesAlike a b (fileLines a u) (fileLines b u) := by
  refine LinesAlike.separated (List.rel_append ?_ (alike_declarationBlocks u.namePlan u))
  rw [h]
  exact List.forall₂_same.2 fun block _ => .refl block

/-- Lines that are alike give texts that are alike line by line, whatever the widths of their
indentation. -/
lemma LinesAlike.stripped_linesText {ls ms : List Line} (h : LinesAlike a b ls ms) (w w' : Nat) :
    List.Forall₂ (Alike a b) (stripped (linesText w ls).toList)
      (stripped (linesText w' ms).toList) := by
  rw [Kotlin.stripped_linesText, Kotlin.stripped_linesText]
  refine List.rel_append ?_ (Alike.forall₂_refl _)
  induction h with
  | nil => exact .nil
  | cons halike _ ih => exact List.rel_append halike.stripped ih

/-- With the same switches there is nothing to add. -/
lemma Alike.eq {s t : List Char} (h : Alike a b s t) (hcommas : a.trailingCommas = b.trailingCommas)
    (hinline : a.inlineValueClasses = b.inlineValueClasses) : s = t := by
  rcases h with heq | hleft | hright
  · exact heq
  · cases hleft <;> simp_all
  · cases hright <;> simp_all

/-- **The switches change the layout only.**  Under two layouts that agree on the header, the files
of a unit have equally many lines.  Without their leading spaces, corresponding lines are equal but
for one comma more at the end of one of them, which takes different settings for trailing commas,
or for `@JvmInline value class` at the start of one and `data class` at that of the other, which
takes different settings for value classes.  If the layouts differ in nothing but the width of the
indentation, the lines are equal. -/
theorem renderUnit_alike (a b : Layout) (h : a.fileHeader = b.fileHeader) (u : SourceUnit) :
    List.Forall₂ (Alike a b) (stripped (renderUnit a u).toList) (stripped (renderUnit b u).toList) ∧
      (a.trailingCommas = b.trailingCommas → a.inlineValueClasses = b.inlineValueClasses →
        stripped (renderUnit a u).toList = stripped (renderUnit b u).toList) := by
  have halike := (alike_fileLines h u).stripped_linesText a.indentWidth b.indentWidth
  refine ⟨halike, fun hcommas hinline => ?_⟩
  have heq := halike.imp fun s t hst => hst.eq hcommas hinline
  rwa [List.forall₂_eq_eq_eq] at heq

/-- Both differences at once, with a default value that takes two lines: the comma is added to the
second of them, and the spaces it starts with are its own. -/
theorem renderUnit_alike_wrapper :
    let narrow : Layout :=
      { indentWidth := 2, trailingCommas := false, inlineValueClasses := false }
    let value : Property := { name := "value", type := .primitive .string }
    let owner : Property := { name := "owner", type := .named "UserId" [] }
    let note : Property :=
      { name := "note", type := .primitive .string, default? := some "first +\n   second" }
    let u : SourceUnit :=
      { models := [{ name := "UserId", shape := .valueObject [] [value] true },
          { name := "Account", shape := .entity [] [owner, note] }] }
    renderUnit {} u = "@JvmInline value class UserId(val value: String)\n\n" ++
        "data class Account(\n    val owner: UserId,\n" ++
        "    val note: String = first +\n   second,\n)\n" ∧
      renderUnit narrow u = "data class UserId(val value: String)\n\n" ++
        "data class Account(\n  val owner: UserId,\n" ++
        "  val note: String = first +\n   second\n)\n" ∧
      List.Forall₂ (Alike {} narrow) (stripped (renderUnit {} u).toList)
        (stripped (renderUnit narrow u).toList) := by
  intro narrow value owner note u
  refine ⟨by decide +kernel, by decide +kernel, ?_⟩
  exact (renderUnit_alike {} narrow rfl u).1

end Blueprint.Kotlin
