import Blueprint.Proofs.Document.Scope
import Mathlib.Data.List.Forall2

/-!
# Reading back a declared type variable

A declaration such as `T <: A with B` is cut up before anything in it is read as a type: at the
first `<:`, and then at every ` with `.  `TypeParameter.declaration` is the text that all
declarations of one variable can be brought to, and `parse_declaration_of_parse` says that it
declares the same variable with the same bounds.

The danger is a bound whose own spelling is cut.  Spellings have blanks of their own, after a comma
and around an arrow, so ` with ` could begin at one of them, and even end in the separator that
follows the bound: `A => with` before a further bound is such a spelling.  `Apart` says of a text
that no separator begins inside it, whatever comes after, as long as a name ends there.  Every form
of spelling keeps it, because each blank is followed by a name other than `with` or by no name at
all; the predicate that goes through the forms is `Inert`, the one about the text with a blank in
front.
-/

namespace Blueprint

/-! ## Cutting a text -/

namespace Text

variable {text front rest : List Char}

lemma splitOnce_eq_none (h : '<' ∉ text) : splitOnce ['<', ':'] text = none := by
  induction text with
  | nil => rfl
  | cons c text ih =>
    rw [List.mem_cons, not_or] at h
    obtain ⟨hc, htext⟩ := h
    simp [splitOnce, List.isPrefixOf, hc, ih htext]

lemma splitOnce_append (h : '<' ∉ front) :
    splitOnce ['<', ':'] (front ++ '<' :: ':' :: rest) = some (front, rest) := by
  induction front with
  | nil => simp [splitOnce, List.isPrefixOf]
  | cons c front ih =>
    rw [List.mem_cons, not_or] at h
    obtain ⟨hc, hfront⟩ := h
    simp [splitOnce, List.isPrefixOf, hc, ih hfront]

/-- Trimming takes the blanks after a text that has none. -/
lemma trim_append {blanks : List Char} (htext : ∀ c ∈ text, isBlank c = false)
    (hblanks : ∀ c ∈ blanks, isBlank c = true) : trim (text ++ blanks) = text := by
  have hend : ∀ s : List Char, (∀ c ∈ s, isBlank c = false) → s.dropWhile isBlank = s := by
    intro s hs
    cases s with
    | nil => rfl
    | cons c s => exact List.dropWhile_cons_of_neg (by simp [hs c])
  cases text with
  | nil =>
    have hnone : trimStart blanks = [] := List.dropWhile_eq_nil_iff.2 hblanks
    rw [List.nil_append, trim, hnone]
    rfl
  | cons c text =>
    have hstart : trimStart (c :: text ++ blanks) = c :: text ++ blanks :=
      List.dropWhile_cons_of_neg (by simp [htext c])
    rw [trim, hstart, trimEnd, List.reverse_append,
      List.dropWhile_append_of_pos (by simpa using hblanks),
      hend _ fun d hd => htext d (List.mem_reverse.1 hd), List.reverse_reverse]

end Text

/-! ## Spellings without a separator -/

namespace TypeExpr

open Blueprint.Text
open Blueprint.DottedName (IsDotted)

/-- What stands between two bounds. -/
def separator : List Char :=
  [' ', 'w', 'i', 't', 'h', ' ']

/-- No separator begins inside the text, whatever comes after it, as long as a name ends there. -/
def Apart : List Char → Prop
  | [] => True
  | c :: text => (∀ rest, EndsName rest → ¬ separator <+: c :: text ++ rest) ∧ Apart text

/-- No separator begins inside the text or at a blank in front of it. -/
def Inert (text : List Char) : Prop :=
  Apart (' ' :: text)

section Apart

variable {text front : List Char}

lemma Inert.apart (h : Inert text) : Apart text :=
  h.2

lemma EndsName.append (hfront : EndsName front) (htext : EndsName text) :
    EndsName (front ++ text) := by
  cases front with
  | nil => exact htext
  | cons c front => exact hfront

lemma apart_append (hfront : Apart front) (htext : Apart text) (hname : EndsName text) :
    Apart (front ++ text) := by
  induction front with
  | nil => exact htext
  | cons c front ih =>
    refine ⟨fun rest hrest hseparator => ?_, ih hfront.2⟩
    refine hfront.1 (text ++ rest) (hname.append hrest) ?_
    simpa using hseparator

lemma apart_cons {c : Char} (hc : c ≠ ' ') (h : Apart text) : Apart (c :: text) := by
  refine ⟨fun rest _ hseparator => hc ?_, h⟩
  exact (List.cons_prefix_cons.1 hseparator).1.symm

lemma apart_of_not_mem (h : ' ' ∉ text) : Apart text := by
  induction text with
  | nil => trivial
  | cons c text ih =>
    rw [List.mem_cons, not_or] at h
    obtain ⟨hc, htext⟩ := h
    exact apart_cons (Ne.symm hc) (ih htext)

lemma Inert.append (hfront : Inert front) (htext : Apart text) (hname : EndsName text) :
    Inert (front ++ text) :=
  apart_append hfront htext hname

/-- A blank and a character that is no `w` begin no separator. -/
lemma inert_cons {c : Char} (hc : c ≠ 'w') (h : Apart (c :: text)) : Inert (c :: text) := by
  refine ⟨fun rest _ hseparator => hc ?_, h⟩
  have hword := (List.cons_prefix_cons.1 hseparator).2
  exact (List.cons_prefix_cons.1 hword).1.symm

/-- After a blank a name begins a separator only if it is the word between two bounds. -/
lemma inert_name {name : String} (hname : IsDotted name) (hwith : name ≠ "with") :
    Inert name.toList := by
  have hblank : ' ' ∉ name.toList := hname.not_mem_toList (by decide)
  refine ⟨fun rest hrest hseparator => hwith ?_, apart_of_not_mem hblank⟩
  obtain ⟨after, hafter⟩ := (List.cons_prefix_cons.1 hseparator).2
  -- Both sides begin with a name that ends where the other does.
  have hleft : (['w', 'i', 't', 'h'] ++ ' ' :: after).takeWhile isNameChar = ['w', 'i', 't', 'h'] :=
    takeWhile_append_of_head (List.all_eq_true.1 (by decide)) (endsName_cons (by decide) after)
  have hright : (name.toList ++ rest).takeWhile isNameChar = name.toList :=
    takeWhile_append_of_head hname.isNameChar_of_mem hrest
  have htexts : name.toList ++ rest = ['w', 'i', 't', 'h'] ++ ' ' :: after := hafter.symm
  rw [← String.toList_inj, ← hright, htexts, hleft]
  rfl

end Apart

mutual

/-- The names that a type mentions, those of named types and of variables, at any depth. -/
def mentionedNames : TypeExpr → List String
  | .primitive _ => []
  | .named name args => name :: mentionedNamesOf args
  | .parameter name bounds => name :: mentionedNamesOf bounds
  | .nullable t => mentionedNames t
  | .list t => mentionedNames t
  | .set t => mentionedNames t
  | .map k v => mentionedNames k ++ mentionedNames v
  | .function params result => mentionedNamesOf params ++ mentionedNames result

/-- `mentionedNames` on lists of types. -/
def mentionedNamesOf : List TypeExpr → List String
  | [] => []
  | t :: ts => mentionedNames t ++ mentionedNamesOf ts

end

lemma mentionedNamesOf_eq_flatMap (ts : List TypeExpr) :
    mentionedNamesOf ts = ts.flatMap mentionedNames := by
  induction ts with
  | nil => rfl
  | cons t ts ih => simp [mentionedNamesOf, ih]

lemma not_mem_mentionedNames_child {name : String} {s t : TypeExpr}
    (h : name ∉ t.mentionedNames) (hs : s ∈ t.children) : name ∉ s.mentionedNames := by
  intro hmem
  cases t <;> grind [mentionedNames, mentionedNamesOf_eq_flatMap, children]

section Display

variable {name : String} {inner : List Char}

/-- A name with a bracketed list. -/
lemma inert_applied (hname : Inert name.toList) (hinner : Apart inner) :
    Inert (name.toList ++ '[' :: (inner ++ [']'])) := by
  have hclose : Apart [']'] := apart_of_not_mem (by decide)
  have hlist : Apart (inner ++ [']']) :=
    apart_append hinner hclose (endsName_cons (by decide) _)
  exact hname.append (apart_cons (by decide) hlist) (endsName_cons (by decide) _)

/-- Two spellings with a comma between them. -/
lemma inert_comma {first second : List Char} (hfirst : Inert first) (hsecond : Inert second) :
    Inert (first ++ ',' :: ' ' :: second) :=
  hfirst.append (apart_cons (by decide) hsecond) (endsName_cons (by decide) _)

lemma inert_nil : Inert [] := by
  refine ⟨fun rest hrest hseparator => ?_, trivial⟩
  obtain ⟨after, hafter⟩ := (List.cons_prefix_cons.1 hseparator).2
  have hhead : rest.head? = some 'w' := congrArg List.head? hafter.symm
  exact absurd (hrest 'w' hhead) (by decide)

lemma inert_displayAll {ts : List TypeExpr} (h : ∀ t ∈ ts, Inert t.display.toList) :
    Inert (displayAll ts).toList := by
  induction ts with
  | nil => exact inert_nil
  | cons t ts ih =>
    have hfirst := h t List.mem_cons_self
    cases ts with
    | nil => exact hfirst
    | cons u us =>
      have hrest := ih fun s hs => h s (List.mem_cons_of_mem _ hs)
      simpa [displayAll] using inert_comma hfirst hrest

lemma inert_function {params result : List Char} (hparams : Inert params) (hresult : Inert result) :
    Inert ('(' :: (params ++ ')' :: ' ' :: '=' :: '>' :: ' ' :: result)) := by
  have harrow : Inert ('=' :: '>' :: ' ' :: result) :=
    inert_cons (by decide) (apart_cons (by decide) (apart_cons (by decide) hresult))
  have hclose : Apart (')' :: ' ' :: '=' :: '>' :: ' ' :: result) :=
    apart_cons (by decide) harrow
  have hlist := apart_append hparams.apart hclose (endsName_cons (by decide) _)
  exact inert_cons (by decide) (apart_cons (by decide) hlist)

/-- The spelling of a readable type in which nothing is called `with` holds no separator. -/
lemma Readable.inert_display {scope : List String} {t : TypeExpr} (h : Readable scope t)
    (hwith : "with" ∉ t.mentionedNames) : Inert t.display.toList := by
  induction h with
  | primitive p =>
    have hdotted : IsDotted p.name := by cases p <;> decide
    exact inert_name hdotted (by cases p <;> decide)
  | @named name args hname hdotted hargs ih =>
    have hne : name ≠ "with" := by
      rintro rfl
      exact hwith List.mem_cons_self
    have hinner : ∀ a ∈ args, Inert a.display.toList := fun a ha =>
      ih a ha (not_mem_mentionedNames_child hwith ha)
    cases args with
    | nil => exact inert_name hdotted hne
    | cons a rest =>
      simpa [display] using inert_applied (inert_name hdotted hne) (inert_displayAll hinner).apart
  | @parameter name hname hscope hdotted =>
    refine inert_name hdotted ?_
    rintro rfl
    exact hwith List.mem_cons_self
  | nullable hscope ht h ih =>
    have hname : Inert "Option".toList := inert_name (by decide) (by decide)
    have hinner := ih (not_mem_mentionedNames_child hwith (by simp [children]))
    simpa [display] using inert_applied hname hinner.apart
  | list h ih =>
    have hname : Inert "List".toList := inert_name (by decide) (by decide)
    have hinner := ih (not_mem_mentionedNames_child hwith (by simp [children]))
    simpa [display] using inert_applied hname hinner.apart
  | set hscope h ih =>
    have hname : Inert "Set".toList := inert_name (by decide) (by decide)
    have hinner := ih (not_mem_mentionedNames_child hwith (by simp [children]))
    simpa [display] using inert_applied hname hinner.apart
  | map hscope hk hv ihk ihv =>
    have hname : Inert "Map".toList := inert_name (by decide) (by decide)
    have hkey := ihk (not_mem_mentionedNames_child hwith (by simp [children]))
    have hvalue := ihv (not_mem_mentionedNames_child hwith (by simp [children]))
    simpa [display] using inert_applied hname (inert_comma hkey hvalue).apart
  | function hparams hresult ihparams ihresult =>
    have hinner := inert_displayAll fun a ha =>
      ihparams a ha (not_mem_mentionedNames_child hwith (by simp [children, ha]))
    have hlast := ihresult (not_mem_mentionedNames_child hwith (by simp [children]))
    simpa [display] using inert_function hinner hlast

end Display

/-! ## The pieces between the separators -/

/-- A text without a separator is part of one piece, which goes on with the first piece of what
comes after it. -/
lemma pieces_append {text rest first : List Char} {others : List (List Char)} (h : Apart text)
    (hrest : EndsName rest) (hpieces : pieces separator rest = first :: others) :
    pieces separator (text ++ rest) = (text ++ first) :: others := by
  induction text with
  | nil => exact hpieces
  | cons c text ih =>
    -- A separator that begins at `c` may end in `rest`, so `text` alone does not exclude it.
    have hstart : ¬ separator.isPrefixOf (c :: (text ++ rest)) = true := by
      rw [List.isPrefixOf_iff_prefix]
      exact h.1 rest hrest
    have htail := ih h.2
    rw [pieces] at htail ⊢
    rw [List.cons_append, piecesFrom, if_neg hstart, htail]
    rfl

lemma pieces_separator_append (rest : List Char) :
    pieces separator (separator ++ rest) = [] :: pieces separator rest := by
  simp [pieces, piecesFrom, separator, List.isPrefixOf]

lemma pieces_intercalate {text : List Char} {others : List (List Char)} (h : Apart text)
    (hothers : ∀ other ∈ others, Apart other) :
    pieces separator (separator.intercalate (text :: others)) = text :: others := by
  induction others generalizing text with
  | nil => simpa using pieces_append h endsName_nil rfl
  | cons next others ih =>
    have hrest := ih (hothers next List.mem_cons_self) fun other hother =>
      hothers other (List.mem_cons_of_mem _ hother)
    have hends : EndsName (separator ++ separator.intercalate (next :: others)) :=
      endsName_cons (by decide) _
    have hcut := pieces_append h hends (pieces_separator_append _)
    rwa [List.append_nil, hrest, ← List.append_assoc, ← List.intercalate_cons_cons] at hcut

lemma read_space {scope : List String} {text : String} {t : TypeExpr}
    (h : ReadsBack scope text t) : read scope (' ' :: text.toList) = .ok t := by
  obtain ⟨ts, hderives, hspells⟩ := h
  have htext : Spells text.toList ts := by
    simpa using hspells [] [] endsName_nil spells_nil
  obtain ⟨lexemes, htokens, hmap⟩ := spells_space htext 1
  exact (read_eq_ok_iff htokens).2 (hmap ▸ hderives)

end TypeExpr

/-! ## Declarations -/

namespace TypeParameter

open Blueprint.Text
open Blueprint.TypeExpr (isNameChar separator)

variable {scope : List String} {p : TypeParameter} {name : List Char}

/-- The text that every declaration of the variable can be brought to. -/
def declaration (p : TypeParameter) : String :=
  if p.bounds.isEmpty then p.name
  else p.name ++ " <: " ++ " with ".intercalate (p.bounds.map TypeExpr.display)

/-- What a declaration declares has a name that can stand in a declaration. -/
lemma isVariableName_of_parse {input : String} (h : parse input scope = .ok p) :
    isVariableName p.name.toList = true := by
  obtain ⟨hname, -⟩ := spec_of_parse h
  rw [hname, declaredName, String.toList_ofList]
  by_contra hinvalid
  simp only [parse, read, if_neg hinvalid] at h
  cases h

lemma isNameChar_of_isVariableName (h : isVariableName name = true) :
    ∀ c ∈ name, isNameChar c = true := by
  intro c hc
  rw [isVariableName, Bool.and_eq_true, List.all_eq_true] at h
  have hchar := h.2 c hc
  rw [Bool.or_eq_true] at hchar
  rcases hchar with hchar | hchar <;> simp [isNameChar, hchar]

lemma not_mem_of_isVariableName (h : isVariableName name = true) {c : Char}
    (hc : isNameChar c = false) : c ∉ name := by
  intro hmem
  rw [isNameChar_of_isVariableName h c hmem] at hc
  cases hc

lemma nameOf_append (h : isVariableName name = true) {blanks : List Char}
    (hblanks : ∀ c ∈ blanks, isBlank c = true) : nameOf (name ++ blanks) = name := by
  have hname : ∀ c ∈ name, isBlank c = false := fun c hc =>
    TypeExpr.isBlank_eq_false (isNameChar_of_isVariableName h c hc)
  have hsigns : name.dropWhile (fun c => c == '+' || c == '-') = name := by
    have hplus : '+' ∉ name := not_mem_of_isVariableName h (by decide)
    have hminus : '-' ∉ name := not_mem_of_isVariableName h (by decide)
    cases name with
    | nil => rfl
    | cons c name =>
      simp only [List.mem_cons, not_or] at hplus hminus
      exact List.dropWhile_cons_of_neg (by simp [Ne.symm hplus.1, Ne.symm hminus.1])
  have htrim : trim name = name := by
    simpa using trim_append hname (fun c hc => absurd hc List.not_mem_nil)
  rw [nameOf, trim_append hname hblanks, hsigns, htrim]

lemma toList_declaration (hbounds : p.bounds ≠ []) :
    p.declaration.toList = p.name.toList ++ [' '] ++
      '<' :: ':' :: ' ' :: separator.intercalate (p.bounds.map fun b => b.display.toList) := by
  have hseparator : " with ".toList = separator := rfl
  simp [declaration, hbounds, String.toList_intercalate, hseparator, Function.comp_def]

/-- A declaration is cut at its first `<:`, which stands right after the name. -/
lemma splitOnce_declaration (h : isVariableName p.name.toList = true) (hbounds : p.bounds ≠ []) :
    splitOnce ['<', ':'] p.declaration.toList = some (p.name.toList ++ [' '],
      ' ' :: separator.intercalate (p.bounds.map fun b => b.display.toList)) := by
  have hname : '<' ∉ p.name.toList := not_mem_of_isVariableName h (by decide)
  rw [toList_declaration hbounds]
  exact splitOnce_append (by simpa using hname)

lemma splitOnce_declaration_bare (h : isVariableName p.name.toList = true)
    (hbounds : p.bounds = []) : splitOnce ['<', ':'] p.declaration.toList = none := by
  have hname : '<' ∉ p.name.toList := not_mem_of_isVariableName h (by decide)
  simpa [declaration, hbounds] using splitOnce_eq_none hname

/-- The part before the `<:` of a declaration names its variable. -/
lemma nameOf_declaration (h : isVariableName p.name.toList = true) :
    nameOf (((splitOnce ['<', ':'] p.declaration.toList).map Prod.fst).getD p.declaration.toList) =
      p.name.toList := by
  by_cases hbounds : p.bounds = []
  · have hbare : p.declaration = p.name := by simp [declaration, hbounds]
    rw [splitOnce_declaration_bare h hbounds, hbare]
    simpa using nameOf_append h (fun c hc => absurd hc List.not_mem_nil)
  · rw [splitOnce_declaration h hbounds]
    exact nameOf_append h (List.all_eq_true.1 (by decide))

lemma declaredName_declaration (h : isVariableName p.name.toList = true) :
    declaredName p.declaration = p.name := by
  rw [declaredName, nameOf_declaration h, String.ofList_toList]

lemma readBounds_eq_ok {offset : Nat} {texts : List (List Char)} {bounds : List TypeExpr}
    (h : List.Forall₂ (fun text t => TypeExpr.read scope text = .ok t) texts bounds) :
    readBounds scope offset texts = .ok bounds := by
  induction h with
  | nil => rfl
  | cons hread _ ih =>
    rw [readBounds, hread, ih]
    rfl

/-- The bounds of a declaration are found again and read back, the first of them behind the blank
that follows the `<:`. -/
lemma readBounds_declaration (hlist : "List" ∉ scope) {bounds : List TypeExpr}
    (hbounds : bounds ≠ []) (hreadable : ∀ b ∈ bounds, b.Readable scope)
    (hwith : ∀ b ∈ bounds, "with" ∉ b.mentionedNames) (offset : Nat) :
    readBounds scope offset (pieces separator
      (' ' :: separator.intercalate (bounds.map fun b => b.display.toList))) = .ok bounds := by
  have hinert : ∀ b ∈ bounds, TypeExpr.Inert b.display.toList := fun b hb =>
    (hreadable b hb).inert_display (hwith b hb)
  have hback : ∀ b ∈ bounds, TypeExpr.ReadsBack scope b.display b := fun b hb =>
    (hreadable b hb).readsBack hlist
  cases bounds with
  | nil => exact absurd rfl hbounds
  | cons first others =>
    have hfront : ' ' :: separator.intercalate
        ((first :: others).map fun b => b.display.toList) = separator.intercalate
          ((' ' :: first.display.toList) :: others.map fun b => b.display.toList) := by
      cases others <;> simp
    have hapart : ∀ text ∈ others.map fun b => b.display.toList, TypeExpr.Apart text := by
      rw [List.forall_mem_map]
      exact fun b hb => (hinert b (List.mem_cons_of_mem _ hb)).apart
    rw [hfront, TypeExpr.pieces_intercalate (hinert first List.mem_cons_self) hapart]
    refine readBounds_eq_ok (.cons (TypeExpr.read_space (hback first List.mem_cons_self)) ?_)
    rw [List.forall₂_map_left_iff, List.forall₂_same]
    exact fun b hb => TypeExpr.read_of_readsBack (hback b (List.mem_cons_of_mem _ hb))

lemma read_declaration (hlist : "List" ∉ scope) (hname : isVariableName p.name.toList = true)
    (hreadable : ∀ b ∈ p.bounds, b.Readable scope)
    (hwith : ∀ b ∈ p.bounds, "with" ∉ b.mentionedNames) :
    read scope p.declaration.toList = .ok p := by
  have hseparator : " with ".toList = separator := rfl
  simp only [read, nameOf_declaration hname, hname, if_true, String.ofList_toList]
  by_cases hbounds : p.bounds = []
  · rw [splitOnce_declaration_bare hname hbounds, ← hbounds]
  · simp only [splitOnce_declaration hname hbounds, hseparator,
      readBounds_declaration hlist hbounds hreadable hwith]
    rfl

/-- **A declared type variable is read back.**  Where no variable is called `List`, let a text
declare a variable none of whose bounds mentions a type called `with`.  Then the declaration written
from the variable and its bounds declares the same variable with the same bounds, and the name that
both texts are found to declare is that of the variable. -/
theorem parse_declaration_of_parse (scope : List String) (hlist : "List" ∉ scope) (input : String)
    (p : TypeParameter) (h : parse input scope = .ok p)
    (hwith : ∀ b ∈ p.bounds, "with" ∉ b.mentionedNames) :
    parse p.declaration scope = .ok p ∧ [input].map declaredName = [p.name] ∧
      [p.declaration].map declaredName = [p.name] := by
  have hname := isVariableName_of_parse h
  obtain ⟨hdeclared, hreadable⟩ := spec_of_parse h
  refine ⟨?_, ?_, ?_⟩
  · rw [parse, read_declaration hlist hname hreadable hwith]
    rfl
  · rw [List.map_singleton, hdeclared]
  · rw [List.map_singleton, declaredName_declaration hname]

/-- A declaration with a sign, aliases, superfluous blanks and parentheses, and names that only
begin or end like the separator. -/
theorem parse_declaration_of_parse_sign :
    let p : TypeParameter := ⟨"T", [.named "Ordered" [.parameter "T" []],
      .function [.list (.named "a.with" [])] (.nullable (.named "with.B" []))]⟩
    parse " +T<: Ordered[ T ] with (Seq[a.with]) =>Option[Option[with.B]]" ["T"] = .ok p ∧
      p.declaration = "T <: Ordered[T] with (List[a.with]) => Option[with.B]" ∧
      parse p.declaration ["T"] = .ok p := by
  intro p
  have hparse : parse " +T<: Ordered[ T ] with (Seq[a.with]) =>Option[Option[with.B]]" ["T"] =
      .ok p := by decide +kernel
  have hwith : ∀ b ∈ p.bounds, "with" ∉ b.mentionedNames := by decide
  exact ⟨hparse, by decide +kernel,
    (parse_declaration_of_parse ["T"] (by decide) _ p hparse hwith).1⟩

/-- A bound that ends in a type called `with` is cut in two once another bound follows it. -/
example : (parse "T <: A =>\twith with B" []).toOption.map (fun p =>
    (p.declaration, (parse p.declaration []).toOption)) =
      some ("T <: (A) => with with B", none) := by
  decide +kernel

end TypeParameter

end Blueprint
