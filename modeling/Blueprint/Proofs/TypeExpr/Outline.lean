import Blueprint.Proofs.Kotlin.TypeText
import Blueprint.Proofs.TypeExpr.RoundTrip

/-!
# What the spelling of a type determines

Messages and rules show types by `display` and compare them by it.  This file says what such a
spelling keeps: `outlines_eq_of_displayAll_eq` and `Readable.eq_of_map_outline_eq` together say that
a list of types that were read in one scope is determined by its spelling.  It needs more than
reading the spelling back, for the scope may hold a variable called `List`, and then `List[T]` can
be shown but not read.

The document spells a type as Kotlin does, but for the characters: `[`, `]` and `=>` stand where
Kotlin has `<`, `>` and `->`.  So the spelling of a type is, up to `kotlinChar`, the text of a
Kotlin shape, its `outline`, and everything that is known about texts of shapes applies to it.  From
the outline the type is recovered by looking at names alone (`ofOutline`).

A list of types in parentheses may follow a name that is any text, parentheses included.  The
spellings are `Balanced`, and a balanced text is found from the right: `Balanced.append_inj`.
-/

namespace Blueprint.TypeExpr

open Blueprint.DottedName (IsDotted)
open Blueprint.Kotlin (HasDottedNames Shape)

/-! ## Outlines -/

mutual

/-- The outline of a type: its spelling as names with arguments and functions. -/
def outline : TypeExpr → Shape
  | .primitive p => .name p.name []
  | .named name args => .name name (outlines args)
  | .parameter name _ => .name name []
  | .nullable t => .name "Option" [outline t]
  | .list t => .name "List" [outline t]
  | .set t => .name "Set" [outline t]
  | .map k v => .name "Map" [outline k, outline v]
  | .function params result => .function false (outlines params) (outline result)

/-- The outlines of several types. -/
def outlines : List TypeExpr → List Shape
  | [] => []
  | t :: ts => outline t :: outlines ts

end

lemma outlines_eq_map (ts : List TypeExpr) : outlines ts = ts.map outline := by
  induction ts with
  | nil => rfl
  | cons t ts ih => simp [outlines, ih]

lemma isWord_of_isDotted {name : String} (h : IsDotted name) : Kotlin.IsWord name := by
  rw [Kotlin.IsWord, Kotlin.unquoted_of_not_mem (h.not_mem_toList (by decide))]
  exact h

lemma wellFormed_outline {t : TypeExpr} (h : HasDottedNames t) : t.outline.WellFormed := by
  induction h with
  | primitive p =>
    have hname : IsDotted p.name := by cases p <;> decide
    exact .name (isWord_of_isDotted hname) (by simp)
  | named hname _ ih =>
    rw [outline, outlines_eq_map]
    exact .name (isWord_of_isDotted hname) (by simpa using ih)
  | parameter hname => exact .name (isWord_of_isDotted hname) (by simp)
  | nullable _ ih => exact .name (by decide) (by simpa using ih)
  | list _ ih => exact .name (by decide) (by simpa using ih)
  | set _ ih => exact .name (by decide) (by simpa using ih)
  | map _ _ ihk ihv => exact .name (by decide) (by simpa using ⟨ihk, ihv⟩)
  | function _ _ ihparams ihresult =>
    rw [outline, outlines_eq_map]
    exact .function (by simpa using ihparams) ihresult

/-! ## The spelling of a type is the text of its outline -/

/-- The character of a Kotlin text that stands for one of a document. -/
def kotlinChar (c : Char) : Char :=
  if c = '[' then '<' else if c = ']' then '>' else if c = '=' then '-' else c

/-- Names are spelled alike in documents and in Kotlin. -/
lemma map_kotlinChar_of_isDotted {name : String} (h : IsDotted name) :
    name.toList.map kotlinChar = name.toList := by
  have hopen : '[' ∉ name.toList := h.not_mem_toList (by decide)
  have hclose : ']' ∉ name.toList := h.not_mem_toList (by decide)
  have hequals : '=' ∉ name.toList := h.not_mem_toList (by decide)
  conv_rhs => rw [← List.map_id name.toList]
  refine List.map_congr_left fun c hc => ?_
  simp [kotlinChar, ne_of_mem_of_not_mem hc hopen, ne_of_mem_of_not_mem hc hclose,
    ne_of_mem_of_not_mem hc hequals]

lemma map_displayAll {ts : List TypeExpr}
    (h : ∀ t ∈ ts, t.display.toList.map kotlinChar = t.outline.text) :
    (displayAll ts).toList.map kotlinChar = Shape.listText (outlines ts) := by
  induction ts with
  | nil => rfl
  | cons t rest ih =>
    have hfirst := h t (by simp)
    have hrest := ih fun t ht => h t (by simp [ht])
    cases rest with
    | nil => simp [displayAll, outlines, Shape.listText, Shape.followingText, hfirst]
    | cons u others =>
      have hcomma : (", ".toList).map kotlinChar = [',', ' '] := by decide
      rw [displayAll, String.toList_append, String.toList_append, List.map_append, List.map_append,
        hrest, hfirst, hcomma]
      simp [outlines, Shape.listText, Shape.followingText]

/-- A name with a bracketed list becomes a name with its arguments. -/
lemma map_applied {name inner : String} {args : List Shape} (hname : IsDotted name)
    (hne : args ≠ []) (h : inner.toList.map kotlinChar = Shape.listText args) :
    (name ++ "[" ++ inner ++ "]").toList.map kotlinChar = (Shape.name name args).text := by
  have hopen : kotlinChar '[' = '<' := by decide
  have hclose : kotlinChar ']' = '>' := by decide
  rw [Shape.text_name, Shape.argsText, if_neg (by simpa using hne)]
  simp [map_kotlinChar_of_isDotted hname, h, hopen, hclose]

lemma map_applied_one {name : String} {t : TypeExpr} (hname : IsDotted name)
    (h : t.display.toList.map kotlinChar = t.outline.text) :
    (name ++ "[" ++ t.display ++ "]").toList.map kotlinChar =
      (Shape.name name [t.outline]).text := by
  have hinner : (displayAll [t]).toList.map kotlinChar = Shape.listText (outlines [t]) :=
    map_displayAll (by simpa using h)
  exact map_applied hname (by simp) hinner

lemma map_display {t : TypeExpr} (h : HasDottedNames t) :
    t.display.toList.map kotlinChar = t.outline.text := by
  induction h with
  | primitive p =>
    have hname : IsDotted p.name := by cases p <;> decide
    simpa [display, outline, Shape.text] using map_kotlinChar_of_isDotted hname
  | @named name args hname _ ih =>
    cases args with
    | nil => simpa [display, outline, outlines, Shape.text] using map_kotlinChar_of_isDotted hname
    | cons a rest =>
      rw [display, outline]
      exact map_applied hname (by simp [outlines]) (map_displayAll ih)
  | parameter hname =>
    simpa [display, outline, Shape.text] using map_kotlinChar_of_isDotted hname
  | nullable _ ih =>
    have hname : IsDotted "Option" := by decide
    simpa [display, outline] using map_applied_one hname ih
  | list _ ih =>
    have hname : IsDotted "List" := by decide
    simpa [display, outline] using map_applied_one hname ih
  | set _ ih =>
    have hname : IsDotted "Set" := by decide
    simpa [display, outline] using map_applied_one hname ih
  | @map k v _ _ ihk ihv =>
    have hname : IsDotted "Map" := by decide
    have hentries : (displayAll [k, v]).toList.map kotlinChar = Shape.listText (outlines [k, v]) :=
      map_displayAll (by simpa using ⟨ihk, ihv⟩)
    simpa [display, displayAll, outline, outlines, String.append_assoc] using
      map_applied hname (by simp [outlines]) hentries
  | function _ _ ihparams ihresult =>
    have harrow : (") => ".toList).map kotlinChar = [')', ' ', '-', '>', ' '] := by decide
    have hparen : kotlinChar '(' = '(' := by decide
    rw [display, outline, Shape.text, String.toList_append, String.toList_append,
      String.toList_append, List.map_append, List.map_append, List.map_append, harrow,
      map_displayAll ihparams, ihresult]
    simp [hparen, Shape.modifier]

/-- A list of types with commas between them determines their outlines. -/
lemma outlines_eq_of_displayAll_eq {ts us : List TypeExpr} (hts : ∀ t ∈ ts, HasDottedNames t)
    (hus : ∀ u ∈ us, HasDottedNames u) (h : displayAll ts = displayAll us) :
    ts.map outline = us.map outline := by
  have htext : Shape.listText (ts.map outline) = Shape.listText (us.map outline) := by
    rw [← outlines_eq_map, ← outlines_eq_map, ← map_displayAll fun t ht => map_display (hts t ht),
      ← map_displayAll fun u hu => map_display (hus u hu), h]
  have hwell : ∀ s ∈ ts.map outline, s.WellFormed ∧ s.SelfDelimiting := by
    rw [List.forall_mem_map]
    intro t ht
    have hshape := wellFormed_outline (hts t ht)
    exact ⟨hshape, hshape.selfDelimiting⟩
  have hwell' : ∀ s ∈ us.map outline, s.WellFormed := by
    rw [List.forall_mem_map]
    exact fun u hu => wellFormed_outline (hus u hu)
  have happend : Shape.listText (ts.map outline) ++ [')'] =
      Shape.listText (us.map outline) ++ [')'] := by rw [htext]
  exact (Shape.listText_append_inj hwell hwell' (by simp) happend).1

/-- If a list of types is spelled like another one, so are its members one by one. -/
lemma map_display_eq_of_displayAll_eq {ts us : List TypeExpr} (hts : ∀ t ∈ ts, HasDottedNames t)
    (hus : ∀ u ∈ us, HasDottedNames u) (h : displayAll ts = displayAll us) :
    ts.map display = us.map display := by
  have houtlines := outlines_eq_of_displayAll_eq hts hus h
  induction ts generalizing us with
  | nil => simpa [eq_comm] using houtlines
  | cons t ts ih =>
    cases us with
    | nil => simp at houtlines
    | cons u us =>
      simp only [List.map_cons, List.cons.injEq] at houtlines ⊢
      obtain ⟨hfirst, hothers⟩ := houtlines
      have hlength : t.display.toList.length = u.display.toList.length := by
        have htext := congrArg (fun s => s.text.length) hfirst
        simpa [← map_display (hts t (by simp)), ← map_display (hus u (by simp))] using htext
      cases ts with
      | nil =>
        obtain rfl : us = [] := by simpa [eq_comm] using hothers
        exact ⟨h, rfl⟩
      | cons t' ts =>
        cases us with
        | nil => simp at hothers
        | cons u' us =>
          simp only [displayAll, ← String.toList_inj, String.toList_append,
            List.append_assoc] at h
          obtain ⟨hdisplay, hrest⟩ := List.append_inj h hlength
          refine ⟨String.toList_inj.1 hdisplay, ?_⟩
          refine ih (fun t ht => hts t (by simp [ht])) (fun u hu => hus u (by simp [hu])) ?_ hothers
          exact String.toList_inj.1 (List.append_cancel_left hrest)

/-! ## Types from their outlines -/

/-- The type that a name with arguments spells. -/
def ofName (scope : List String) (word : String) : List TypeExpr → TypeExpr
  | [] =>
    match Primitive.ofName? word with
    | some p => .primitive p
    | none => if word ∈ scope then .parameter word [] else .named word []
  | [t] =>
    if word = "Option" then .nullable t else if word = "List" then .list t
    else if word = "Set" then .set t else .named word [t]
  | [k, v] => if word = "Map" then .map k v else .named word [k, v]
  | args => .named word args

mutual

/-- The type with a given outline, if a scope allows one. -/
def ofOutline (scope : List String) : Shape → TypeExpr
  | .name word args => ofName scope word (ofOutlines scope args)
  | .function _ params result => .function (ofOutlines scope params) (ofOutline scope result)
  | .nullable inner => .nullable (ofOutline scope inner)

/-- `ofOutline` on lists of outlines. -/
def ofOutlines (scope : List String) : List Shape → List TypeExpr
  | [] => []
  | s :: ss => ofOutline scope s :: ofOutlines scope ss

end

variable {scope : List String}

lemma ofOutlines_outlines {ts : List TypeExpr} (h : ∀ t ∈ ts, ofOutline scope t.outline = t) :
    ofOutlines scope (outlines ts) = ts := by
  induction ts with
  | nil => rfl
  | cons t ts ih => simp [outlines, ofOutlines, h t, ih fun t ht => h t (by simp [ht])]

lemma IsOrdinary.ofName_eq {name : String} (h : IsOrdinary scope name) (args : List TypeExpr) :
    ofName scope name args = .named name args := by
  have hbuiltin : name ≠ "Option" ∧ name ≠ "List" ∧ name ≠ "Set" ∧ name ≠ "Map" := by
    refine ⟨?_, ?_, ?_, ?_⟩ <;> (rintro rfl; exact h.not_builtin (by decide))
  obtain ⟨hoption, hlist, hset, hmap⟩ := hbuiltin
  rcases args with _ | ⟨t, _ | ⟨v, _ | ⟨w, rest⟩⟩⟩
  · simp [ofName, ofName?_eq_none_iff.2 h.not_primitive, h.not_mem_scope]
  · simp [ofName, hoption, hlist, hset]
  · simp [ofName, hmap]
  · rfl

/-- A type that was read is recovered from its outline. -/
lemma Readable.ofOutline_outline {t : TypeExpr} (h : Readable scope t) :
    ofOutline scope t.outline = t := by
  induction h with
  | primitive p => simp [outline, ofOutline, ofOutlines, ofName, Primitive.ofName?_name]
  | named hname _ _ ih => rw [outline, ofOutline, ofOutlines_outlines ih, hname.ofName_eq]
  | parameter hname hscope _ =>
    simp [outline, ofOutline, ofOutlines, ofName, ofName?_eq_none_iff.2 hname, hscope]
  | nullable _ _ _ ih => simp [outline, ofOutline, ofOutlines, ofName, ih]
  | list _ ih => simp [outline, ofOutline, ofOutlines, ofName, ih]
  | set _ _ ih => simp [outline, ofOutline, ofOutlines, ofName, ih]
  | map _ _ _ ihk ihv => simp [outline, ofOutline, ofOutlines, ofName, ihk, ihv]
  | function _ _ ihparams ihresult =>
    rw [outline, ofOutline, ofOutlines_outlines ihparams, ihresult]

lemma Readable.eq_of_map_outline_eq {ts us : List TypeExpr} (hts : ∀ t ∈ ts, Readable scope t)
    (hus : ∀ u ∈ us, Readable scope u) (h : ts.map outline = us.map outline) : ts = us := by
  rw [← outlines_eq_map, ← outlines_eq_map] at h
  rw [← ofOutlines_outlines fun t ht => (hts t ht).ofOutline_outline, h,
    ofOutlines_outlines fun u hu => (hus u hu).ofOutline_outline]

lemma Readable.hasDottedNames {t : TypeExpr} (h : Readable scope t) : HasDottedNames t := by
  induction h with
  | primitive p => exact .primitive p
  | named _ hdotted _ ih => exact .named hdotted ih
  | parameter _ _ hdotted => exact .parameter hdotted
  | nullable _ _ _ ih => exact .nullable ih
  | list _ ih => exact .list ih
  | set _ _ ih => exact .set ih
  | map _ _ _ ihk ihv => exact .map ihk ihv
  | function _ _ ihparams ihresult => exact .function ihparams ihresult

/-! ## Parentheses -/

/-- A text with as many opening as closing parentheses in which, counted from the right, no more are
opened than closed. -/
structure Balanced (text : List Char) : Prop where
  count_eq : text.count '(' = text.count ')'
  count_le : ∀ front back, text = front ++ back → back.count '(' ≤ back.count ')'

namespace Balanced

variable {s t : List Char}

lemma of_not_mem (hopen : '(' ∉ t) (hclose : ')' ∉ t) : Balanced t := by
  refine ⟨?_, ?_⟩
  · rw [List.count_eq_zero.2 hopen, List.count_eq_zero.2 hclose]
  · rintro front back rfl
    rw [List.mem_append, not_or] at hopen
    simp [List.count_eq_zero.2 hopen.2]

lemma append (hs : Balanced s) (ht : Balanced t) : Balanced (s ++ t) := by
  refine ⟨?_, ?_⟩
  · rw [List.count_append, List.count_append, hs.count_eq, ht.count_eq]
  · intro front back h
    rcases List.append_eq_append_iff.1 h with ⟨middle, -, hback⟩ | ⟨middle, hfront, rfl⟩
    · exact ht.count_le middle back hback
    · have hmiddle := hs.count_le front middle hfront
      rw [List.count_append, List.count_append, ht.count_eq]
      omega

lemma parens (ht : Balanced t) : Balanced ('(' :: (t ++ [')'])) := by
  refine ⟨?_, ?_⟩
  · simp [ht.count_eq]
  · intro front back h
    cases front with
    | nil =>
      obtain rfl : '(' :: (t ++ [')']) = back := h
      simp [ht.count_eq]
    | cons c front =>
      rcases List.append_eq_append_iff.1 (List.cons.inj h).2 with
        ⟨middle, -, hback⟩ | ⟨middle, hfront, rfl⟩
      · have hopen : '(' ∉ back := fun hmem => by
          have hlast : '(' ∈ [')'] := hback ▸ List.mem_append_right middle hmem
          simp at hlast
        simp [List.count_eq_zero.2 hopen]
      · have hmiddle := ht.count_le front middle hfront
        simpa using Nat.le_succ_of_le hmiddle

/-- Where a balanced text ends a longer one, the opening parenthesis in front of it is the last that
stays open, so it is found whatever comes before. -/
lemma append_inj {front front' : List Char} (hs : Balanced s) (ht : Balanced t)
    (h : front ++ '(' :: s = front' ++ '(' :: t) : front = front' ∧ s = t := by
  -- the longer of the two would have an end in which one parenthesis too many is opened
  have hlonger : ∀ {s t : List Char} {middle}, Balanced s → Balanced t →
      '(' :: s = middle ++ '(' :: t → middle = [] := by
    intro s t middle hs ht h
    cases middle with
    | nil => rfl
    | cons c middle =>
      have hcount := hs.count_le middle ('(' :: t) (List.cons.inj h).2
      have hequal := ht.count_eq
      simp only [List.count_cons_self, List.count_cons_of_ne (show '(' ≠ ')' by decide)] at hcount
      omega
  rcases List.append_eq_append_iff.1 h with ⟨middle, rfl, hmiddle⟩ | ⟨middle, rfl, hmiddle⟩
  · obtain rfl := hlonger hs ht hmiddle
    simpa using hmiddle
  · obtain rfl := hlonger ht hs hmiddle
    simpa [eq_comm] using hmiddle

end Balanced

lemma balanced_of_isDotted {name : String} (h : IsDotted name) : Balanced name.toList :=
  .of_not_mem (h.not_mem_toList (by decide)) (h.not_mem_toList (by decide))

lemma balanced_displayAll {ts : List TypeExpr} (h : ∀ t ∈ ts, Balanced t.display.toList) :
    Balanced (displayAll ts).toList := by
  have hcomma : Balanced ", ".toList := .of_not_mem (by decide) (by decide)
  induction ts with
  | nil => exact .of_not_mem (by simp [displayAll]) (by simp [displayAll])
  | cons t rest ih =>
    have hfirst := h t (by simp)
    have hrest := ih fun t ht => h t (by simp [ht])
    cases rest with
    | nil => exact hfirst
    | cons u others =>
      rw [displayAll, String.toList_append, String.toList_append]
      exact (hfirst.append hcomma).append hrest

/-- A name with a bracketed list is balanced if the list is. -/
lemma balanced_applied {name inner : String} (hname : IsDotted name)
    (h : Balanced inner.toList) : Balanced (name ++ "[" ++ inner ++ "]").toList := by
  have hopen : Balanced "[".toList := .of_not_mem (by decide) (by decide)
  have hclose : Balanced "]".toList := .of_not_mem (by decide) (by decide)
  simpa only [String.toList_append] using
    (((balanced_of_isDotted hname).append hopen).append h).append hclose

lemma balanced_display {t : TypeExpr} (h : HasDottedNames t) : Balanced t.display.toList := by
  induction h with
  | primitive p =>
    have hname : IsDotted p.name := by cases p <;> decide
    exact balanced_of_isDotted hname
  | @named name args hname _ ih =>
    cases args with
    | nil => exact balanced_of_isDotted hname
    | cons a rest =>
      rw [display]
      exact balanced_applied hname (balanced_displayAll ih)
  | parameter hname => exact balanced_of_isDotted hname
  | nullable _ ih =>
    have hname : IsDotted "Option" := by decide
    simpa [display] using balanced_applied hname ih
  | list _ ih =>
    have hname : IsDotted "List" := by decide
    simpa [display] using balanced_applied hname ih
  | set _ ih =>
    have hname : IsDotted "Set" := by decide
    simpa [display] using balanced_applied hname ih
  | @map k v _ _ ihk ihv =>
    have hname : IsDotted "Map" := by decide
    have hentries : Balanced (displayAll [k, v]).toList :=
      balanced_displayAll (by simpa using ⟨ihk, ihv⟩)
    simpa [display, displayAll, String.append_assoc] using balanced_applied hname hentries
  | @function params result _ _ ihparams ihresult =>
    have harrow : Balanced " => ".toList := .of_not_mem (by decide) (by decide)
    have hparams := (balanced_displayAll ihparams).parens
    simpa [display] using (hparams.append harrow).append ihresult

end Blueprint.TypeExpr
