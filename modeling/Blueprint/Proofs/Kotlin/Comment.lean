import Blueprint.Proofs.Kotlin.Writer
import Mathlib.Data.List.Chain

/-!
# Documentation stays in its comment

Documentation is free text that ends up inside a block comment.  Block comments nest, so a `/*` in
the text would be as harmful as a `*/`: the first keeps the comment open, the second closes it too
early.  Both are spelled with a character reference before the text is trimmed, cut into lines and
put behind ` * `, and a delimiter could come about again at every joint.

A text is `Harmless` if no two neighbours in it make a delimiter.  This is a condition on
neighbours, so it passes to every part of a text, and it is easily checked where a blank joins two
parts (`harmless_append_cons`).  One lemma about `replacePair` serves both replacements: the first
leaves no `*/`, the second leaves no `/*` and brings no `*/` back.  `writeDoc_isDocBlock` is what
follows for the text that a writer puts out.
-/

namespace Blueprint

/-! ## Parts of a text -/

namespace Text

section ReplacePair

variable {a b : Char} {replacement text : List Char}

/-- A replacement that begins with the first character of the pair leaves the first character of the
text alone. -/
lemma head?_replacePair (hhead : replacement.head? = some a) (text : List Char) :
    (replacePair a b replacement text).head? = text.head? := by
  fun_induction replacePair a b replacement text with
  | case1 => rfl
  | case2 => rfl
  | case3 c d rest hpair ih => rw [List.head?_append, hhead, hpair.1]; rfl
  | case4 => rfl

/-- Neighbours after a replacement are neighbours of the text, neighbours inside the replacement, or
its last character with whatever comes next. -/
lemma isChain_replacePair {R : Char → Char → Prop} (hhead : replacement.head? = some a)
    (hinner : replacement.IsChain R) (hlast : ∀ c ∈ replacement.getLast?, ∀ d, R c d)
    (htext : text.IsChain fun c d => c = a ∧ d = b ∨ R c d) :
    (replacePair a b replacement text).IsChain R := by
  fun_induction replacePair a b replacement text with
  | case1 => exact .nil
  | case2 c => exact .singleton c
  | case3 c d rest hpair ih =>
    -- What follows the pair may be anything, which is why `hlast` is for every character.
    refine hinner.append (ih htext.tail.tail) ?_
    intro last hmem next _
    exact hlast last hmem next
  | case4 c d rest hpair ih =>
    -- The neighbour of `c` is `d` also if a pair that begins at `d` is replaced.
    refine (ih htext.tail).cons ?_
    rw [head?_replacePair hhead]
    rintro _ ⟨⟩
    exact (List.isChain_cons_cons.1 htext).1.resolve_left hpair

/-- Whether all of a text is of one kind is not changed by a replacement, if neither the pair nor
the replacement is. -/
lemma forall_mem_replacePair {P : Char → Prop} (ha : ¬ P a)
    (hreplacement : ∃ c ∈ replacement, ¬ P c) :
    (∀ c ∈ replacePair a b replacement text, P c) ↔ ∀ c ∈ text, P c := by
  obtain ⟨x, hx, hxP⟩ := hreplacement
  fun_induction replacePair a b replacement text with
  | case1 => rfl
  | case2 => rfl
  | case3 c d rest hpair ih =>
    constructor
    · intro h
      exact absurd (h x (by simp [hx])) hxP
    · intro h
      exact absurd (h a (by simp [hpair.1])) ha
  | case4 c d rest hpair ih =>
    rw [List.forall_mem_cons, ih]
    exact List.forall_mem_cons.symm

end ReplacePair

lemma trimEnd_isPrefix (s : List Char) : trimEnd s <+: s := by
  obtain ⟨front, hfront⟩ := List.dropWhile_suffix isBlank (l := s.reverse)
  refine ⟨front.reverse, ?_⟩
  rw [trimEnd, ← List.reverse_append, hfront, List.reverse_reverse]

lemma trim_isInfix (s : List Char) : trim s <:+: s := by
  exact (trimEnd_isPrefix _).isInfix.trans (List.dropWhile_suffix isBlank).isInfix

lemma trimEnd_eq_nil_iff {s : List Char} : trimEnd s = [] ↔ ∀ c ∈ s, isBlank c = true := by
  simp [trimEnd, List.dropWhile_eq_nil_iff]

/-- Every line is a part of the text, and the first one is where it begins. -/
lemma lines_isInfix (s : List Char) :
    (∀ l ∈ (lines s).head?, l <+: s) ∧ ∀ l ∈ lines s, l <:+: s := by
  fun_induction lines s with
  | case1 => simp
  | case2 rest ih =>
    have hrest : ∀ l ∈ lines rest, l <:+: '\n' :: rest := fun l hl =>
      (ih.2 l hl).trans (List.suffix_cons _ _).isInfix
    simpa using hrest
  | case3 rest ih =>
    have hrest : ∀ l ∈ lines rest, l <:+: '\r' :: '\n' :: rest := fun l hl =>
      (ih.2 l hl).trans (List.suffix_append ['\r', '\n'] _).isInfix
    simpa using hrest
  | case4 c rest _ _ hlines ih =>
    have hfirst : [c] <+: c :: rest := ⟨rest, rfl⟩
    simpa using hfirst.isInfix
  | case5 c rest _ _ line others hlines ih =>
    rw [hlines] at ih
    have hfirst : c :: line <+: c :: rest := List.cons_prefix_cons.2 ⟨rfl, ih.1 line rfl⟩
    have hothers : ∀ l ∈ others, l <:+: c :: rest := fun l hl =>
      (ih.2 l (List.mem_cons_of_mem _ hl)).trans (List.suffix_cons c rest).isInfix
    refine ⟨?_, List.forall_mem_cons.2 ⟨hfirst.isInfix, hothers⟩⟩
    rintro _ ⟨⟩
    exact hfirst

end Text

namespace Kotlin

open Blueprint.Text

/-! ## Delimiters -/

/-- Two neighbours that open or close a comment. -/
def IsDelimiter (c d : Char) : Prop :=
  c = '/' ∧ d = '*' ∨ c = '*' ∧ d = '/'

/-- No delimiter stands anywhere in the text. -/
def Harmless (text : List Char) : Prop :=
  text.IsChain fun c d => ¬ IsDelimiter c d

lemma Harmless.part {s text : List Char} (h : Harmless text) (hs : s <:+: text) : Harmless s := by
  obtain ⟨before, after, rfl⟩ := hs
  exact h.left_of_append.right_of_append

/-- A character that is in no delimiter keeps the parts around it apart. -/
lemma harmless_append_cons {c : Char} (hslash : c ≠ '/') (hstar : c ≠ '*') (s t : List Char) :
    Harmless (s ++ c :: t) ↔ Harmless s ∧ Harmless t := by
  have hbefore : ∀ d, ¬ IsDelimiter d c := fun d h =>
    h.elim (fun h => hstar h.2) (fun h => hslash h.2)
  have hafter : ∀ d, ¬ IsDelimiter c d := fun d h =>
    h.elim (fun h => hslash h.1) (fun h => hstar h.1)
  simp [Harmless, List.isChain_append, List.isChain_cons, hbefore, hafter]

lemma harmless_cons {c : Char} (hslash : c ≠ '/') (hstar : c ≠ '*') (t : List Char) :
    Harmless (c :: t) ↔ Harmless t := by
  have hnil : Harmless [] := .nil
  simpa [hnil] using harmless_append_cons hslash hstar [] t

lemma harmless_replicate_append (n : Nat) (t : List Char) :
    Harmless (List.replicate n ' ' ++ t) ↔ Harmless t := by
  induction n with
  | zero => rfl
  | succ n ih =>
    rw [List.replicate_succ, List.cons_append, harmless_cons (by decide) (by decide), ih]

lemma Harmless.not_open {text : List Char} (h : Harmless text) :
    text.IsChain fun c d => ¬ (c = '/' ∧ d = '*') :=
  h.imp fun _ _ hpair => (not_or.1 hpair).1

lemma Harmless.not_close {text : List Char} (h : Harmless text) :
    text.IsChain fun c d => ¬ (c = '*' ∧ d = '/') :=
  h.imp fun _ _ hpair => (not_or.1 hpair).2

/-- Escaped text holds no delimiter: the first replacement removes every `*/`, the second every
`/*`, and it does not bring back what the first removed. -/
lemma harmless_escapeComment (text : List Char) : Harmless (escapeComment text) := by
  have hfirst : (replacePair '*' '/' "*&#47;".toList text).IsChain
      fun c d => ¬ (c = '*' ∧ d = '/') := by
    refine isChain_replacePair rfl (by decide) ?_ ?_
    · rintro c ⟨⟩ d ⟨h, -⟩
      cases h
    · refine List.isChain_iff_forall_rel_of_append_cons_cons.2 fun c d _ _ _ => ?_
      exact Classical.em _
  refine isChain_replacePair rfl ?_ ?_ ?_
  · simp [IsDelimiter]
  · rintro c ⟨⟩ d (⟨h, -⟩ | ⟨h, -⟩) <;> cases h
  · -- Neighbours that are not replaced now make no `*/` since the first replacement.
    refine hfirst.imp fun c d hclose => ?_
    by_cases hopen : c = '/' ∧ d = '*'
    · exact Or.inl hopen
    · exact Or.inr (not_or.2 ⟨hopen, hclose⟩)

lemma harmless_of_mem_commentLines {text l : List Char} (h : l ∈ commentLines text) :
    Harmless l := by
  obtain ⟨whole, hwhole, rfl⟩ := List.mem_map.1 h
  have hpart : trimEnd whole <:+: escapeComment text :=
    (trimEnd_isPrefix whole).isInfix.trans
      (((lines_isInfix _).2 whole hwhole).trans (trim_isInfix _))
  exact (harmless_escapeComment text).part hpart

/-- Only blank documentation leaves nothing to write. -/
lemma commentLines_eq_nil_iff {text : List Char} :
    commentLines text = [] ↔ ∀ c ∈ text, isBlank c = true := by
  have hslash : ¬ isBlank '/' = true := by decide
  have hstar : ¬ isBlank '*' = true := by decide
  rw [commentLines, List.map_eq_nil_iff, lines_eq_nil_iff, trim_eq_nil_iff, trimEnd_eq_nil_iff,
    escapeComment, forall_mem_replacePair hslash ⟨'/', by simp, hslash⟩,
    forall_mem_replacePair hstar ⟨'*', by simp, hstar⟩]

/-! ## Comments that nest -/

/-- What comes after the comment that a text starts in, with `depth` comments open around it;
nothing if the text ends before that. -/
def closeComment : Nat → List Char → Option (List Char)
  | depth, c :: d :: rest =>
    if c = '*' ∧ d = '/' then
      match depth with
      | 0 => some rest
      | depth + 1 => closeComment depth rest
    else if c = '/' ∧ d = '*' then closeComment (depth + 1) rest
    else closeComment depth (d :: rest)
  | _, _ => none

/-- What comes after the comment that a text begins with. -/
def skipComment : List Char → Option (List Char)
  | '/' :: '*' :: rest => closeComment 0 rest
  | _ => none

/-- Through harmless text a comment stays open, and the delimiter after it closes it. -/
lemma closeComment_of_harmless {inner : List Char} (h : Harmless (inner ++ ['*']))
    (rest : List Char) : closeComment 0 (inner ++ '*' :: '/' :: rest) = some rest := by
  induction inner with
  | nil => simp [closeComment]
  | cons c inner ih =>
    obtain ⟨d, others, hnext⟩ : ∃ d others, inner ++ ['*'] = d :: others :=
      List.exists_cons_of_ne_nil (by simp)
    have hpair : ¬ IsDelimiter c d ∧ Harmless (inner ++ ['*']) := by
      rw [List.cons_append, hnext] at h
      rw [hnext]
      exact List.isChain_cons_cons.1 h
    obtain ⟨hopen, hclose⟩ := not_or.1 hpair.1
    have happend : inner ++ '*' :: '/' :: rest = d :: (others ++ '/' :: rest) := by
      simpa using congrArg (· ++ '/' :: rest) hnext
    rw [List.cons_append, happend, closeComment, if_neg hclose, if_neg hopen, ← happend]
    exact ih hpair.2

/-- If a pair occurs where two texts without it meet, it occurs nowhere else. -/
lemma eq_of_append_pair {a b : Char} {s t u v : List Char}
    (hs : (s ++ [a]).IsChain fun c d => ¬ (c = a ∧ d = b))
    (ht : (b :: t).IsChain fun c d => ¬ (c = a ∧ d = b))
    (h : s ++ a :: b :: t = u ++ a :: b :: v) : u = s ∧ v = t := by
  rcases List.append_eq_append_iff.1 h with ⟨more, rfl, hmore⟩ | ⟨more, rfl, hmore⟩
  · cases more with
    | nil =>
      cases hmore
      simp
    | cons x more =>
      -- The second occurrence would lie in `b :: t`.
      obtain ⟨-, hlater⟩ := List.cons.inj hmore
      rw [hlater] at ht
      exact absurd ⟨rfl, rfl⟩ (List.isChain_append_cons_cons.1 ht).2.1
  · cases more with
    | nil =>
      cases hmore
      simp
    | cons x more =>
      -- The second occurrence would lie in `s ++ [a]`, with its end in the last `a` if need be.
      obtain ⟨rfl, hlater⟩ := List.cons.inj hmore
      cases more with
      | nil =>
        obtain ⟨rfl, -⟩ := List.cons.inj hlater
        simp at hs
      | cons y more =>
        obtain ⟨rfl, -⟩ := List.cons.inj hlater
        simp at hs

/-- A block comment on lines of its own, `indent` before it and a line feed after it.  The pair that
opens it stands at its start only, the pair that closes it at its end only, and a reader of nesting
comments that begins at its start arrives exactly at its end, whatever comes then. -/
structure IsDocBlock (indent text : String) : Prop where
  delimited : ∃ body, text = indent ++ ("/**" ++ body ++ "*/") ++ "\n" ∧
    ∀ rest : String, skipComment ("/**" ++ body ++ "*/" ++ rest).toList = some rest.toList
  opens_once : ∀ before after, text = before ++ "/*" ++ after → before = indent
  closes_once : ∀ before after, text = before ++ "*/" ++ after → after = "\n"

/-- The indentation of a number of spaces. -/
def spaces (n : Nat) : String :=
  String.ofList (List.replicate n ' ')

/-- A comment whose inside is harmless, the stars of its delimiters included, is a block. -/
lemma isDocBlock_of_harmless (n : Nat) {body : String}
    (h : Harmless ('*' :: '*' :: (body.toList ++ ['*']))) :
    IsDocBlock (spaces n) (spaces n ++ ("/**" ++ body ++ "*/") ++ "\n") := by
  have hslash : Harmless (List.replicate n ' ' ++ ['/']) :=
    (harmless_replicate_append n ['/']).2 (.singleton _)
  refine ⟨⟨body, rfl, fun rest => ?_⟩, fun before after heq => ?_, fun before after heq => ?_⟩
  · have hinner : Harmless ('*' :: body.toList ++ ['*']) := h.tail
    simpa [skipComment] using closeComment_of_harmless hinner rest.toList
  · have hlists : List.replicate n ' ' ++ '/' :: '*' :: ('*' :: (body.toList ++ ['*', '/', '\n'])) =
        before.toList ++ '/' :: '*' :: after.toList := by
      simpa [spaces] using congrArg String.toList heq
    have hinside : ('*' :: '*' :: (body.toList ++ ['*', '/', '\n'])).IsChain
        fun c d => ¬ (c = '/' ∧ d = '*') := by
      rw [← List.cons_append, ← List.cons_append, List.isChain_append_cons_cons]
      exact ⟨h.not_open, by simp, by simp⟩
    obtain ⟨hbefore, -⟩ := eq_of_append_pair hslash.not_open hinside hlists
    rw [spaces, ← hbefore, String.ofList_toList]
  · have hlists : (List.replicate n ' ' ++ '/' :: '*' :: '*' :: body.toList) ++
        '*' :: '/' :: ['\n'] = before.toList ++ '*' :: '/' :: after.toList := by
      simpa [spaces] using congrArg String.toList heq
    have hinside : ((List.replicate n ' ' ++ '/' :: '*' :: '*' :: body.toList) ++ ['*']).IsChain
        fun c d => ¬ (c = '*' ∧ d = '/') := by
      rw [List.append_assoc, List.cons_append, List.cons_append, List.isChain_append_cons_cons]
      exact ⟨hslash.not_close, by simp, h.not_close⟩
    obtain ⟨-, hafter⟩ := eq_of_append_pair hinside (by simp) hlists
    rw [← String.toList_inj, hafter]
    rfl

/-! ## What a writer puts out -/

/-- The text of some lines, `depth` levels deep. -/
def sunkText (width depth : Nat) (ls : List Line) : String :=
  linesText width (ls.map (Line.sunk depth))

lemma sunkText_line_cons (width depth : Nat) {text : String} (htext : text ≠ "") (ls : List Line) :
    sunkText width depth (line text :: ls) =
      spaces (depth * width) ++ text ++ "\n" ++ sunkText width depth ls := by
  have hrender : ((line text).sunk depth).render width =
      spaces (depth * width) ++ text ++ "\n" := by
    simp [Line.render, Line.sunk, line, htext, spaces]
  rw [sunkText, List.map_cons, linesText_cons, hrender, sunkText]

/-- The lines of a comment between its first and its last, each behind a star. -/
lemma harmless_starred (width depth : Nat) {many : List String}
    (hmany : ∀ l ∈ many, Harmless l.toList) {t : List Char} (ht : Harmless t) :
    Harmless ((sunkText width depth (many.map fun l =>
      line (if l.isEmpty then " *" else " * " ++ l))).toList ++ t) := by
  induction many with
  | nil => simpa [sunkText] using ht
  | cons l many ih =>
    have hrest := ih fun l hl => hmany l (List.mem_cons_of_mem _ hl)
    have hline : Harmless (if l.isEmpty then " *" else " * " ++ l).toList := by
      split
      · exact (harmless_cons (by decide) (by decide) _).2 (.singleton _)
      · have hstar : Harmless ['*'] := .singleton _
        simpa [harmless_cons, hstar] using (harmless_append_cons (by decide) (by decide) ['*'] _).2
          ⟨hstar, hmany l List.mem_cons_self⟩
    have hne : (if l.isEmpty then " *" else " * " ++ l) ≠ "" := by
      split <;> simp
    rw [List.map_cons, sunkText_line_cons width depth hne]
    simp only [String.toList_append, spaces, String.toList_ofList, List.append_assoc]
    rw [harmless_replicate_append]
    exact (harmless_append_cons (by decide) (by decide) _ _).2 ⟨hline, hrest⟩

lemma isDocBlock_single (width depth : Nat) {single : String} (h : Harmless single.toList) :
    IsDocBlock (spaces (depth * width))
      (sunkText width depth [line ("/** " ++ single ++ " */")]) := by
  have hinside : Harmless ('*' :: '*' :: ((" " ++ single ++ " ").toList ++ ['*'])) := by
    have hstars : Harmless ['*', '*'] := .cons_cons (by simp [IsDelimiter]) (.singleton _)
    have htail : Harmless (single.toList ++ ' ' :: ['*']) :=
      (harmless_append_cons (by decide) (by decide) _ _).2 ⟨h, .singleton _⟩
    simpa using (harmless_append_cons (by decide) (by decide) ['*', '*'] _).2 ⟨hstars, htail⟩
  have htext : sunkText width depth [line ("/** " ++ single ++ " */")] =
      spaces (depth * width) ++ ("/**" ++ (" " ++ single ++ " ") ++ "*/") ++ "\n" := by
    rw [sunkText_line_cons width depth (by simp)]
    simp [← String.toList_inj, sunkText]
  rw [htext]
  exact isDocBlock_of_harmless _ hinside

lemma isDocBlock_many (width depth : Nat) {many : List String}
    (h : ∀ l ∈ many, Harmless l.toList) :
    IsDocBlock (spaces (depth * width)) (sunkText width depth
      (line "/**" :: many.map (fun l => line (if l.isEmpty then " *" else " * " ++ l)) ++
        [line " */"])) := by
  set starred := sunkText width depth (many.map fun l =>
    line (if l.isEmpty then " *" else " * " ++ l)) with hstarred
  have hlast : Harmless (List.replicate (depth * width) ' ' ++ [' ', '*']) := by
    rw [harmless_replicate_append, harmless_cons (by decide) (by decide)]
    exact .singleton _
  have hinside : Harmless ('*' :: '*' ::
      (("\n" ++ starred ++ spaces (depth * width) ++ " ").toList ++ ['*'])) := by
    have hstars : Harmless ['*', '*'] := .cons_cons (by simp [IsDelimiter]) (.singleton _)
    have hbody := harmless_starred width depth h hlast
    rw [← hstarred] at hbody
    have hjoined := (harmless_append_cons (c := '\n') (by decide) (by decide) _ _).2 ⟨hstars, hbody⟩
    simpa [spaces] using hjoined
  have htext : sunkText width depth
      (line "/**" :: many.map (fun l => line (if l.isEmpty then " *" else " * " ++ l)) ++
        [line " */"]) = spaces (depth * width) ++
          ("/**" ++ ("\n" ++ starred ++ spaces (depth * width) ++ " ") ++ "*/") ++ "\n" := by
    have happend : ∀ ls ms : List Line,
        sunkText width depth (ls ++ ms) = sunkText width depth ls ++ sunkText width depth ms := by
      intro ls ms
      simp only [sunkText, List.map_append, linesText_append]
    rw [List.cons_append, sunkText_line_cons width depth (by simp), happend,
      sunkText_line_cons width depth (by simp), ← hstarred]
    simp [← String.toList_inj, sunkText]
  rw [htext]
  exact isDocBlock_of_harmless _ hinside

lemma IsDocBlock.ne_empty {indent text : String} (h : IsDocBlock indent text) : text ≠ "" := by
  obtain ⟨body, rfl, -⟩ := h.delimited
  simp

lemma sunkText_docComment (width depth : Nat) (doc : String) :
    (sunkText width depth (docComment doc) = "" ↔ ∀ c ∈ doc.toList, isBlank c = true) ∧
      (sunkText width depth (docComment doc) = "" ∨
        IsDocBlock (spaces (depth * width)) (sunkText width depth (docComment doc))) := by
  have hharmless : ∀ l ∈ (commentLines doc.toList).map String.ofList, Harmless l.toList := by
    simp only [List.forall_mem_map, String.toList_ofList]
    exact fun l hl => harmless_of_mem_commentLines hl
  have hblank : (∀ c ∈ doc.toList, isBlank c = true) ↔
      (commentLines doc.toList).map String.ofList = [] := by
    rw [List.map_eq_nil_iff, commentLines_eq_nil_iff]
  rw [hblank, docComment]
  generalize (commentLines doc.toList).map String.ofList = ls at hharmless ⊢
  cases ls with
  | nil => exact ⟨by simp [sunkText], Or.inl rfl⟩
  | cons first others =>
    cases others with
    | nil =>
      have hblock := isDocBlock_single width depth (hharmless first List.mem_cons_self)
      exact ⟨by simpa using hblock.ne_empty, Or.inr hblock⟩
    | cons second others =>
      have hblock := isDocBlock_many width depth hharmless
      exact ⟨by simpa using hblock.ne_empty, Or.inr hblock⟩

/-- A list of documented properties is documentation that is never blank: it begins with an `@`. -/
lemma exists_propertyComment_eq {docs : List (String × String)} (h : docs ≠ []) :
    ∃ tags : String, propertyComment docs = docComment tags ∧ '@' ∈ tags.toList := by
  cases docs with
  | nil => exact absurd rfl h
  | cons doc docs =>
    refine ⟨_, if_neg (by simp), ?_⟩
    cases docs <;> simp

lemma sunkText_propertyComment (width depth : Nat) (docs : List (String × String)) :
    (sunkText width depth (propertyComment docs) = "" ↔ docs = []) ∧
      (sunkText width depth (propertyComment docs) = "" ∨
        IsDocBlock (spaces (depth * width)) (sunkText width depth (propertyComment docs))) := by
  by_cases hdocs : docs = []
  · subst hdocs
    exact ⟨by simp [propertyComment, sunkText], Or.inl rfl⟩
  · obtain ⟨tags, htags, hat⟩ := exists_propertyComment_eq hdocs
    obtain ⟨hempty, hblock⟩ := sunkText_docComment width depth tags
    have htag : ¬ ∀ c ∈ tags.toList, isBlank c = true := fun h => absurd (h '@' hat) (by decide)
    rw [htags]
    exact ⟨iff_of_false (mt hempty.1 htag) hdocs, hblock⟩

/-- **Documentation cannot leave its comment.**  Wherever a writer stands, documentation adds
nothing if it is blank, and otherwise one block comment at the depth reached: its delimiters are
found at its two ends and nowhere else, so that a reader of nesting comments leaves it exactly
there.  The same holds of the comment of a class or service that lists documented properties,
whatever their names and their documentation; only an empty list adds nothing. -/
theorem writeDoc_isDocBlock (w : Writer) :
    (∀ doc, ∃ text, (writeDoc doc).run w = ((), { w with output := w.output ++ text }) ∧
        (text = "" ↔ ∀ c ∈ doc.toList, isBlank c = true) ∧
        (text = "" ∨ IsDocBlock (spaces (w.indent * w.layout.indentWidth)) text)) ∧
      ∀ docs, ∃ text, (writePropertyDocs docs).run w = ((), { w with output := w.output ++ text }) ∧
        (text = "" ↔ docs = []) ∧
        (text = "" ∨ IsDocBlock (spaces (w.indent * w.layout.indentWidth)) text) := by
  constructor
  · intro doc
    have htext := sunkText_docComment w.layout.indentWidth w.indent doc
    exact ⟨_, writes_doc w.plan w.layout doc w rfl rfl, htext.1, htext.2⟩
  · intro docs
    have htext := sunkText_propertyComment w.layout.indentWidth w.indent docs
    exact ⟨_, writes_propertyDocs w.plan w.layout docs w rfl rfl, htext.1, htext.2⟩

/-- Overlapping delimiters, at the ends of the text and over a line end. -/
example : (docComment "/*/ a **/\n*/* b *\n/").map Line.text =
    ["/**", " * /&#42;&#47; a **&#47;", " * *&#47;* b *", " * /", " */"] := by
  decide +kernel

end Kotlin

end Blueprint
