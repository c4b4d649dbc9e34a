import Blueprint.Toml.Quoting
import Mathlib.Tactic.Lemma

/-!
# How a quoted string is written

Between its quotes a string is a row of pieces: characters that stand for themselves, escapes, code
points in hexadecimal digits, and joints, which are the backslashes at line ends that stand for
nothing and take the blanks after them away.  Which piece may stand where depends on the quoting and
on the pieces after it: a joint takes all blanks, a carriage return belongs to a line feed, and
three quotes in a row close the string.

Main statement: `reads_iff`, the reader takes a whole text as a string exactly if the text is such a
row between quotes, and the string is what its pieces stand for.
-/

namespace Blueprint.Toml

open Text (codePoint?)

/-- A piece of a quoted string. -/
inductive Piece where
  /-- A character that stands for itself. -/
  | plain (c : Char)
  /-- A backslash and one more character. -/
  | escape (e : Char)
  /-- A backslash, a letter and the hexadecimal digits of a code point. -/
  | code (letter : Char) (digits : List Char)
  /-- A backslash at the end of a line, with the blanks it takes away. -/
  | joint (blanks : List Char)
deriving DecidableEq, Repr, Inhabited

/-- The text of a piece. -/
def Piece.text : Piece → List Char
  | plain c => [c]
  | escape e => ['\\', e]
  | code letter digits => '\\' :: letter :: digits
  | joint blanks => '\\' :: blanks

/-- The character that a piece stands for. -/
def Piece.char? : Piece → Option Char
  | plain c => some c
  | escape e => simpleEscape? e
  | code _ digits => codePoint? digits
  | joint _ => none

/-- Whether a piece is one of TOML 1.0, which does not have the escape `e` and code points of two
digits. -/
def Piece.isToml10 : Piece → Bool
  | escape e => e ≠ 'e'
  | code letter _ => letter ≠ 'x'
  | plain _ | joint _ => true

/-- The text of a row of pieces. -/
def spell (pieces : List Piece) : List Char :=
  pieces.flatMap Piece.text

/-- The characters that a row of pieces stands for. -/
def decode (pieces : List Piece) : List Char :=
  pieces.filterMap Piece.char?

@[simp] lemma spell_nil : spell [] = [] := rfl

@[simp] lemma spell_cons (piece : Piece) (rest : List Piece) :
    spell (piece :: rest) = piece.text ++ spell rest := rfl

@[simp] lemma spell_append (before after : List Piece) :
    spell (before ++ after) = spell before ++ spell after :=
  List.flatMap_append

@[simp] lemma decode_nil : decode [] = [] := rfl

lemma decode_cons_of_some {piece : Piece} {c : Char} (h : piece.char? = some c)
    (rest : List Piece) : decode (piece :: rest) = c :: decode rest :=
  List.filterMap_cons_some h

@[simp] lemma decode_plain (c : Char) (rest : List Piece) :
    decode (.plain c :: rest) = c :: decode rest := rfl

@[simp] lemma decode_joint (blanks : List Char) (rest : List Piece) :
    decode (.joint blanks :: rest) = decode rest := rfl

namespace QuoteStyle

/-- The quote of a quoting. -/
def quote : QuoteStyle → Char
  | basic | longBasic => '\x22'
  | literal | longLiteral => '\x27'

/-- Whether a string may run over several lines. -/
def isLong : QuoteStyle → Bool
  | longBasic | longLiteral => true
  | basic | literal => false

/-- Whether a backslash starts an escape. -/
def escapes : QuoteStyle → Bool
  | basic | longBasic => true
  | literal | longLiteral => false

/-- The text before and after a string. -/
def quotes (style : QuoteStyle) : List Char :=
  List.replicate (if style.isLong then 3 else 1) style.quote

/-- Whether a character may stand for itself before the pieces `rest`.  On one line, controls and
the quote may not.  On several, a line end may, and so may a quote that is not the first of
three. -/
def Admits (style : QuoteStyle) (c : Char) (rest : List Piece) : Prop :=
  if style.isLong then
    (isControl c = true → c = '\n' ∨ c = '\r' ∧ rest.head? = some (.plain '\n')) ∧
      (c = style.quote → ¬ [.plain style.quote, .plain style.quote] <+: rest)
  else isControl c = false ∧ c ≠ style.quote

end QuoteStyle

/-- Whether a piece may stand before the pieces `rest`.  A joint takes all blanks, so none may
follow it. -/
def Piece.StandsBefore (style : QuoteStyle) (rest : List Piece) : Piece → Prop
  | plain c => (style.escapes = true → c ≠ '\\') ∧ style.Admits c rest
  | escape e => style.escapes = true ∧ (simpleEscape? e).isSome
  | code letter digits =>
    style.escapes = true ∧ (codePoint? digits).isSome ∧
      (letter, digits.length) ∈ [('x', 2), ('u', 4), ('U', 8)]
  | joint blanks =>
    style = .longBasic ∧ startsLineEnd (dropSpaces blanks) = true ∧
      blankRun blanks = blanks.length ∧ blankRun (spell rest) = 0

/-- Whether every piece may stand before those after it. -/
def Fits (style : QuoteStyle) : List Piece → Prop
  | [] => True
  | piece :: rest => piece.StandsBefore style rest ∧ Fits style rest

instance (style : QuoteStyle) (c : Char) (rest : List Piece) : Decidable (style.Admits c rest) :=
  inferInstanceAs (Decidable (ite ..))

instance (style : QuoteStyle) (rest : List Piece) :
    (piece : Piece) → Decidable (piece.StandsBefore style rest)
  | .plain _ => inferInstanceAs (Decidable (_ ∧ _))
  | .escape _ => inferInstanceAs (Decidable (_ ∧ _))
  | .code _ _ => inferInstanceAs (Decidable (_ ∧ _ ∧ _))
  | .joint _ => inferInstanceAs (Decidable (_ ∧ _ ∧ _ ∧ _))

instance Fits.decidable (style : QuoteStyle) : (pieces : List Piece) → Decidable (Fits style pieces)
  | [] => isTrue trivial
  | _ :: rest => @instDecidableAnd _ _ _ (Fits.decidable style rest)

/-- A written string: its quoting, the line end right after three opening quotes, which is no part
of the string, and its pieces. -/
structure Quoted where
  style : QuoteStyle
  leading : List Char
  pieces : List Piece
  leading_mem : leading ∈ if style.isLong then [[], ['\n'], ['\r', '\n']] else [[]]
  leading_ne_nil : style.isLong = true → startsLineEnd (spell pieces) = true → leading ≠ []
  fits : Fits style pieces

namespace Quoted

/-- The text of a written string after its opening quotes. -/
def body (q : Quoted) : List Char :=
  q.leading ++ (spell q.pieces ++ q.style.quotes)

/-- The text of a written string. -/
def text (q : Quoted) : List Char :=
  q.style.quotes ++ q.body

/-- The string that is written. -/
def value (q : Quoted) : List Char :=
  decode q.pieces

end Quoted

/-- The reader takes a whole text as a string. -/
def Reads (text value : List Char) : Prop :=
  ∃ style body, openQuote? text = some (style, body) ∧ readQuoted style body = .ok (value, [])

/-! ## Blanks at line ends -/

lemma blankRun_blank {c : Char} (h : c = ' ' ∨ c = '\t' ∨ c = '\n') (s : List Char) :
    blankRun (c :: s) = blankRun s + 1 := by
  rcases h with rfl | rfl | rfl <;> simp [blankRun]

lemma blankRun_other {c : Char} (h : ¬ (c = ' ' ∨ c = '\t' ∨ c = '\n')) {s : List Char}
    (hcr : c = '\r' → s.head? ≠ some '\n') : blankRun (c :: s) = 0 := by
  have hend : ∀ t, c = '\r' → s = '\n' :: t → False := fun t hc hs => hcr hc (by simp [hs])
  simp_all [blankRun]

@[simp] lemma blankRun_append_quote (s t : List Char) :
    blankRun (s ++ '\x22' :: t) = blankRun s := by
  fun_induction blankRun s with
  | case1 rest ih => simp [blankRun, ih]
  | case2 c rest hcr hblank ih =>
    rw [List.cons_append, blankRun_blank (by simpa [or_assoc] using hblank), ih]
  | case3 c rest hcr hblank =>
    refine blankRun_other (by simpa [or_assoc] using hblank) fun hc => ?_
    cases rest with
    | nil => simp
    | cons d rest => simpa using fun hd => hcr rest hc (by rw [hd])
  | case4 => simp [blankRun]

lemma blankRun_append {blanks : List Char} (h : blankRun blanks = blanks.length) (s : List Char) :
    blankRun (blanks ++ s) = blanks.length + blankRun s := by
  fun_induction blankRun blanks with
  | case1 rest ih =>
    have hrest : blankRun rest = rest.length := by simpa using h
    simp only [List.cons_append, blankRun, ih hrest, List.length_cons]
    omega
  | case2 c rest hcr hblank ih =>
    have hrest : blankRun rest = rest.length := by simpa using h
    rw [List.cons_append, blankRun_blank (by simpa [or_assoc] using hblank), ih hrest,
      List.length_cons]
    omega
  | case3 c rest hcr hblank => simp at h
  | case4 => simp

lemma mem_of_blankRun {blanks : List Char} (h : blankRun blanks = blanks.length) :
    ∀ c ∈ blanks, c ∈ [' ', '\t', '\n', '\r'] := by
  fun_induction blankRun blanks with
  | case1 rest ih => simpa using ih (by simpa using h)
  | case2 c rest hcr hblank ih =>
    have hc : c = ' ' ∨ c = '\t' ∨ c = '\n' := by simpa [or_assoc] using hblank
    refine List.forall_mem_cons.2 ⟨?_, ih (by simpa using h)⟩
    rcases hc with rfl | rfl | rfl <;> simp
  | case3 c rest hcr hblank => simp at h
  | case4 => simp

lemma startsLineEnd_cons {c : Char} {s : List Char} :
    startsLineEnd (c :: s) = true ↔ c = '\n' ∨ c = '\r' ∧ s.head? = some '\n' := by
  constructor
  · intro h
    by_cases hc : c = '\n'
    · exact .inl hc
    · cases s with
      | nil => simp_all [startsLineEnd]
      | cons d s =>
        by_cases hd : c = '\r' ∧ d = '\n'
        · simp [hd]
        · exact absurd h (by simp_all [startsLineEnd])
  · rintro (rfl | ⟨rfl, hs⟩)
    · rfl
    · obtain ⟨t, rfl⟩ := List.head?_eq_some_iff.1 hs
      rfl

lemma dropSpaces_space {c : Char} (h : c = ' ' ∨ c = '\t') (s : List Char) :
    dropSpaces (c :: s) = dropSpaces s := by
  simp [dropSpaces, h]

lemma dropSpaces_other {c : Char} (h : ¬ (c = ' ' ∨ c = '\t')) (s : List Char) :
    dropSpaces (c :: s) = c :: s := by
  simp [dropSpaces, h]

lemma startsLineEnd_append {blanks : List Char} (h : startsLineEnd (dropSpaces blanks) = true)
    (s : List Char) : startsLineEnd (dropSpaces (blanks ++ s)) = true := by
  induction blanks with
  | nil => simp [dropSpaces, startsLineEnd] at h
  | cons c rest ih =>
    by_cases hc : c = ' ' ∨ c = '\t'
    · rw [dropSpaces_space hc] at h
      rw [List.cons_append, dropSpaces_space hc]
      exact ih h
    · rw [dropSpaces_other hc, startsLineEnd_cons] at h
      rw [List.cons_append, dropSpaces_other hc, startsLineEnd_cons]
      exact h.imp_right fun ⟨hc, hs⟩ => ⟨hc, by rw [List.head?_append, hs]; rfl⟩

/-- A text is the blanks it starts with and the rest of it. -/
lemma exists_blanks (s : List Char) :
    ∃ blanks rest, s = blanks ++ rest ∧ blankRun s = blanks.length ∧
      blankRun blanks = blanks.length ∧ blankRun rest = 0 ∧
      (startsLineEnd (dropSpaces s) = true → startsLineEnd (dropSpaces blanks) = true) := by
  fun_induction blankRun s with
  | case1 s ih =>
    obtain ⟨blanks, rest, rfl, hrun, hblanks, hrest, -⟩ := ih
    exact ⟨'\r' :: '\n' :: blanks, rest, rfl, by simp [hrun], by simp [blankRun, hblanks], hrest,
      fun _ => rfl⟩
  | case2 c s hcr hblank ih =>
    obtain ⟨blanks, rest, rfl, hrun, hblanks, hrest, hstart⟩ := ih
    have hc : c = ' ' ∨ c = '\t' ∨ c = '\n' := by simpa [or_assoc] using hblank
    refine ⟨c :: blanks, rest, rfl, by simp [hrun], by simp [blankRun_blank hc, hblanks], hrest, ?_⟩
    rcases hc with rfl | rfl | rfl
    · exact hstart
    · exact hstart
    · exact fun _ => rfl
  | case3 c s hcr hblank =>
    have hc : ¬ (c = ' ' ∨ c = '\t' ∨ c = '\n') := by simpa [or_assoc] using hblank
    have hend : c = '\r' → s.head? ≠ some '\n' := fun hc hs => by
      obtain ⟨t, rfl⟩ := List.head?_eq_some_iff.1 hs
      exact hcr t hc rfl
    refine ⟨[], c :: s, rfl, rfl, rfl, blankRun_other hc hend, fun h => ?_⟩
    rw [dropSpaces_other fun hs => hc (hs.imp_right .inl), startsLineEnd_cons] at h
    rcases h with rfl | ⟨rfl, hs⟩
    · exact absurd (.inr (.inr rfl)) hc
    · exact absurd hs (hend rfl)
  | case4 => exact ⟨[], [], rfl, rfl, rfl, rfl, id⟩

/-! ## One piece read -/

lemma exists_of_consChar {c : Char} {reading : Except Stuck (List Char × List Char)}
    {v rest : List Char} (h : consChar c reading = .ok (v, rest)) :
    ∃ u, reading = .ok (u, rest) ∧ v = c :: u := by
  cases reading with
  | error e => cases h
  | ok read => cases h; exact ⟨read.1, rfl, rfl⟩

lemma mem_of_simpleEscape {e c : Char} (h : simpleEscape? e = some c) :
    e ∈ ['b', 't', 'n', 'f', 'r', 'e', '\x22', '\\'] := by
  unfold simpleEscape? at h
  split at h <;> simp_all

lemma code_shape {letter : Char} {digits : List Char}
    (h : (letter, digits.length) ∈ [('x', 2), ('u', 4), ('U', 8)]) :
    (letter = 'x' ∧ ∃ a b, digits = [a, b]) ∨ (letter = 'u' ∧ ∃ a b c d, digits = [a, b, c, d]) ∨
      (letter = 'U' ∧ ∃ a b c d e f g h, digits = [a, b, c, d, e, f, g, h]) := by
  simp only [List.mem_cons, Prod.mk.injEq, List.not_mem_nil, or_false] at h
  refine h.imp (.imp_right fun hlen => ?_)
    (.imp (.imp_right fun hlen => ?_) (.imp_right fun hlen => ?_))
  · rcases digits with _ | ⟨a, _ | ⟨b, _ | ⟨_, _⟩⟩⟩ <;> simp at hlen ⊢
  · rcases digits with _ | ⟨a, _ | ⟨b, _ | ⟨c, _ | ⟨d, _ | ⟨_, _⟩⟩⟩⟩⟩ <;> simp at hlen ⊢
  · rcases digits with
      _ | ⟨a, _ | ⟨b, _ | ⟨c, _ | ⟨d, _ | ⟨e, _ | ⟨f, _ | ⟨g, _ | ⟨h, rest⟩⟩⟩⟩⟩⟩⟩⟩ <;>
      simp at hlen ⊢
    exact hlen

lemma basicBody_plain {c : Char} (hb : c ≠ '\\') (hc : isControl c = false) (hq : c ≠ '\x22')
    (s : List Char) : basicBody (c :: s) = consChar c (basicBody s) := by
  rw [basicBody.eq_def]
  split <;> simp_all

lemma basicBody_escape {e c : Char} (h : simpleEscape? e = some c) (s : List Char) :
    basicBody ('\\' :: e :: s) = consChar c (basicBody s) := by
  have hmem := mem_of_simpleEscape h
  simp only [List.mem_cons, List.not_mem_nil, or_false] at hmem
  rcases hmem with rfl | rfl | rfl | rfl | rfl | rfl | rfl | rfl <;> cases h <;> rfl

lemma basicBody_code {letter c : Char} {digits : List Char} (h : codePoint? digits = some c)
    (hletter : (letter, digits.length) ∈ [('x', 2), ('u', 4), ('U', 8)]) (s : List Char) :
    basicBody ('\\' :: letter :: (digits ++ s)) = consChar c (basicBody s) := by
  rcases code_shape hletter with ⟨rfl, _, _, rfl⟩ | ⟨rfl, _, _, _, _, rfl⟩ |
    ⟨rfl, _, _, _, _, _, _, _, _, rfl⟩ <;>
  · rw [basicBody.eq_def]
    simp only [List.cons_append, List.nil_append, h]

lemma literalBody_plain {c : Char} (hc : isControl c = false) (hq : c ≠ '\x27') (s : List Char) :
    literalBody (c :: s) = consChar c (literalBody s) := by
  simp [literalBody, hc]

lemma longBasicBody_plain {c : Char} {s : List Char} (hb : c ≠ '\\')
    (hc : isControl c = true → c = '\n') (hq : c = '\x22' → ¬ ['\x22', '\x22'] <+: s) :
    longBasicBody 0 (c :: s) = consChar c (longBasicBody 0 s) := by
  have hquotes : ∀ t, c = '\x22' → s = '\x22' :: '\x22' :: t → False :=
    fun t h hs => hq h ⟨t, hs.symm⟩
  by_cases hcontrol : isControl c = true
  · obtain rfl := hc hcontrol
    rfl
  · have hcr : c ≠ '\r' := by
      rintro rfl
      exact hcontrol rfl
    rw [longBasicBody.eq_def]
    split <;> simp_all

lemma longBasicBody_lineEnd {s : List Char} (h : s.head? = some '\n') :
    longBasicBody 0 ('\r' :: s) = consChar '\r' (longBasicBody 0 s) := by
  obtain ⟨t, rfl⟩ := List.head?_eq_some_iff.1 h
  have hfeed := longBasicBody_plain (s := t) (c := '\n') (by decide) (fun _ => rfl) (by simp)
  exact congrArg (consChar '\r') hfeed.symm

lemma longBasicBody_escape {e c : Char} (h : simpleEscape? e = some c) (s : List Char) :
    longBasicBody 0 ('\\' :: e :: s) = consChar c (longBasicBody 0 s) := by
  have hmem := mem_of_simpleEscape h
  simp only [List.mem_cons, List.not_mem_nil, or_false] at hmem
  rcases hmem with rfl | rfl | rfl | rfl | rfl | rfl | rfl | rfl <;> cases h <;> rfl

lemma longBasicBody_code {letter c : Char} {digits : List Char} (h : codePoint? digits = some c)
    (hletter : (letter, digits.length) ∈ [('x', 2), ('u', 4), ('U', 8)]) (s : List Char) :
    longBasicBody 0 ('\\' :: letter :: (digits ++ s)) = consChar c (longBasicBody 0 s) := by
  rcases code_shape hletter with ⟨rfl, _, _, rfl⟩ | ⟨rfl, _, _, _, _, rfl⟩ |
    ⟨rfl, _, _, _, _, _, _, _, _, rfl⟩ <;>
  · rw [longBasicBody.eq_def]
    simp only [List.cons_append, List.nil_append, h]

lemma longBasicBody_skip (skipped s : List Char) :
    longBasicBody skipped.length (skipped ++ s) = longBasicBody 0 s := by
  induction skipped with
  | nil => rfl
  | cons c skipped ih => exact ih

lemma longBasicBody_joint {blanks s : List Char}
    (hstart : startsLineEnd (dropSpaces blanks) = true)
    (hblanks : blankRun blanks = blanks.length) (hs : blankRun s = 0) :
    longBasicBody 0 ('\\' :: (blanks ++ s)) = longBasicBody 0 s := by
  cases blanks with
  | nil => exact absurd hstart (by decide)
  | cons e blanks =>
    have hend : startsLineEnd (dropSpaces (e :: (blanks ++ s))) = true :=
      startsLineEnd_append hstart s
    have hrun : blankRun (e :: (blanks ++ s)) - 1 = blanks.length := by
      rw [← List.cons_append, blankRun_append hblanks, hs, List.length_cons]
      omega
    have hstep : longBasicBody 0 ('\\' :: e :: (blanks ++ s)) =
        longBasicBody (blankRun (e :: (blanks ++ s)) - 1) (blanks ++ s) := by
      have hmem := mem_of_blankRun hblanks e List.mem_cons_self
      simp only [List.mem_cons, List.not_mem_nil, or_false] at hmem
      rcases hmem with rfl | rfl | rfl | rfl <;> exact if_pos hend
    rw [List.cons_append, hstep, hrun, longBasicBody_skip]

lemma longLiteralBody_plain {c : Char} {s : List Char}
    (hc : isControl c = true → c = '\n') (hq : c = '\x27' → ¬ ['\x27', '\x27'] <+: s) :
    longLiteralBody (c :: s) = consChar c (longLiteralBody s) := by
  have hquotes : ∀ t, c = '\x27' → s = '\x27' :: '\x27' :: t → False :=
    fun t h hs => hq h ⟨t, hs.symm⟩
  by_cases hcontrol : isControl c = true
  · obtain rfl := hc hcontrol
    rfl
  · have hcr : c ≠ '\r' := by
      rintro rfl
      exact hcontrol rfl
    rw [longLiteralBody.eq_def]
    split <;> simp_all

lemma longLiteralBody_lineEnd {s : List Char} (h : s.head? = some '\n') :
    longLiteralBody ('\r' :: s) = consChar '\r' (longLiteralBody s) := by
  obtain ⟨t, rfl⟩ := List.head?_eq_some_iff.1 h
  have hfeed := longLiteralBody_plain (s := t) (c := '\n') (fun _ => rfl) (by simp)
  exact congrArg (consChar '\r') hfeed.symm

/-! ## What is written is read -/

lemma Piece.StandsBefore.char_or_joint {style : QuoteStyle} {rest : List Piece} {piece : Piece}
    (h : piece.StandsBefore style rest) :
    (∃ c, piece.char? = some c) ∨ style = .longBasic ∧ ∃ blanks, piece = .joint blanks := by
  cases piece with
  | plain c => exact .inl ⟨c, rfl⟩
  | escape e => exact .inl (Option.isSome_iff_exists.1 h.2)
  | code letter digits => exact .inl (Option.isSome_iff_exists.1 h.2.1)
  | joint blanks => exact .inr ⟨h.1, blanks, rfl⟩

lemma basicBody_text {rest : List Piece} {piece : Piece} {c : Char}
    (h : piece.StandsBefore .basic rest) (hchar : piece.char? = some c) (s : List Char) :
    basicBody (piece.text ++ s) = consChar c (basicBody s) := by
  cases piece with
  | plain d =>
    obtain rfl : d = c := Option.some.inj hchar
    exact basicBody_plain (h.1 rfl) h.2.1 h.2.2 s
  | escape e => exact basicBody_escape hchar s
  | code letter digits => exact basicBody_code hchar h.2.2 s
  | joint blanks => cases hchar

lemma basicBody_spell {pieces : List Piece} (h : Fits .basic pieces) (rest : List Char) :
    basicBody (spell pieces ++ '\x22' :: rest) = .ok (decode pieces, rest) := by
  induction pieces with
  | nil => rfl
  | cons piece pieces ih =>
    rcases h.1.char_or_joint with ⟨c, hc⟩ | ⟨hstyle, -⟩
    · rw [spell_cons, List.append_assoc, basicBody_text h.1 hc, ih h.2, decode_cons_of_some hc]
      rfl
    · cases hstyle

lemma literalBody_spell {pieces : List Piece} (h : Fits .literal pieces) (rest : List Char) :
    literalBody (spell pieces ++ '\x27' :: rest) = .ok (decode pieces, rest) := by
  induction pieces with
  | nil => rfl
  | cons piece pieces ih =>
    obtain ⟨hpiece, hrest⟩ := h
    cases piece with
    | plain c =>
      rw [spell_cons, Piece.text, List.singleton_append, List.cons_append,
        literalBody_plain hpiece.2.1 hpiece.2.2, ih hrest]
      rfl
    | escape e => exact absurd hpiece.1 (by decide)
    | code letter digits => exact absurd hpiece.1 (by decide)
    | joint blanks => exact absurd hpiece.1 (by decide)

lemma eq_plain_of_text {c : Char} (hc : c ≠ '\\') {piece : Piece} {s t : List Char}
    (h : piece.text ++ s = c :: t) : piece = .plain c ∧ s = t := by
  cases piece with
  | plain d =>
    obtain ⟨rfl, rfl⟩ := List.cons.inj h
    exact ⟨rfl, rfl⟩
  | escape e => exact absurd (List.cons.inj h).1.symm hc
  | code letter digits => exact absurd (List.cons.inj h).1.symm hc
  | joint blanks => exact absurd (List.cons.inj h).1.symm hc

lemma QuoteStyle.quote_ne_backslash (style : QuoteStyle) : style.quote ≠ '\\' := by
  cases style <;> decide

/-- Two quotes ahead are the next two pieces, or the next piece and a closing quote, or two closing
quotes. -/
lemma pieces_of_quotes (style : QuoteStyle) {pieces : List Piece}
    (h : [style.quote, style.quote] <+: spell pieces ++ style.quotes) :
    pieces = [] ∨ pieces = [.plain style.quote] ∨
      [.plain style.quote, .plain style.quote] <+: pieces := by
  obtain ⟨t, ht⟩ := h
  cases pieces with
  | nil => exact .inl rfl
  | cons piece pieces =>
    rw [spell_cons, List.append_assoc] at ht
    obtain ⟨rfl, hrest⟩ := eq_plain_of_text style.quote_ne_backslash ht.symm
    cases pieces with
    | nil => exact .inr (.inl rfl)
    | cons piece pieces =>
      rw [spell_cons, List.append_assoc] at hrest
      obtain ⟨rfl, -⟩ := eq_plain_of_text style.quote_ne_backslash hrest
      exact .inr (.inr ⟨pieces, rfl⟩)

lemma head_spell_append {c : Char} {pieces : List Piece} (h : pieces.head? = some (.plain c))
    (s : List Char) : (spell pieces ++ s).head? = some c := by
  obtain ⟨rest, rfl⟩ := List.head?_eq_some_iff.1 h
  rfl

lemma longBasicBody_text {pieces : List Piece} {piece : Piece} {c : Char} {s : List Char}
    (h : piece.StandsBefore .longBasic pieces) (hchar : piece.char? = some c)
    (hquotes : piece = .plain '\x22' → ¬ ['\x22', '\x22'] <+: spell pieces ++ s) :
    longBasicBody 0 (piece.text ++ (spell pieces ++ s)) =
      consChar c (longBasicBody 0 (spell pieces ++ s)) := by
  cases piece with
  | plain d =>
    obtain rfl : d = c := Option.some.inj hchar
    obtain ⟨hb, hcontrol, -⟩ := h
    by_cases hd : d = '\r'
    · subst hd
      obtain hn | ⟨-, hhead⟩ := hcontrol rfl
      · cases hn
      · exact longBasicBody_lineEnd (head_spell_append hhead s)
    · exact longBasicBody_plain (hb rfl) (fun hc => (hcontrol hc).resolve_right fun hr => hd hr.1)
        fun hq => hquotes (by rw [hq])
  | escape e => exact longBasicBody_escape hchar _
  | code letter digits => exact longBasicBody_code hchar h.2.2 _
  | joint blanks => cases hchar

lemma longBasicBody_spell {pieces : List Piece} (h : Fits .longBasic pieces) :
    longBasicBody 0 (spell pieces ++ QuoteStyle.longBasic.quotes) = .ok (decode pieces, []) := by
  induction pieces with
  | nil => rfl
  | cons piece pieces ih =>
    rw [spell_cons, List.append_assoc]
    rcases h.1.char_or_joint with ⟨c, hc⟩ | ⟨-, blanks, rfl⟩
    · by_cases hclose : piece = .plain '\x22' ∧
        ['\x22', '\x22'] <+: spell pieces ++ QuoteStyle.longBasic.quotes
      · -- the piece is the last or the last but one, and the closing quotes are read with it
        obtain ⟨rfl, hahead⟩ := hclose
        rcases pieces_of_quotes .longBasic hahead with rfl | rfl | hnext
        · rfl
        · rfl
        · exact absurd hnext (h.1.2.2 rfl)
      · rw [longBasicBody_text h.1 hc fun hp hq => hclose ⟨hp, hq⟩, ih h.2, decode_cons_of_some hc]
        rfl
    · obtain ⟨-, hstart, hblanks, hnext⟩ := h.1
      have hrun : blankRun (spell pieces ++ QuoteStyle.longBasic.quotes) = 0 := by
        rw [← hnext]
        exact blankRun_append_quote _ _
      rw [Piece.text, List.cons_append, longBasicBody_joint hstart hblanks hrun, ih h.2,
        decode_joint]

lemma longLiteralBody_spell {pieces : List Piece} (h : Fits .longLiteral pieces) :
    longLiteralBody (spell pieces ++ QuoteStyle.longLiteral.quotes) = .ok (decode pieces, []) := by
  induction pieces with
  | nil => rfl
  | cons piece pieces ih =>
    obtain ⟨hpiece, hrest⟩ := h
    cases piece with
    | plain c =>
      obtain ⟨-, hcontrol, hquotes⟩ := hpiece
      rw [spell_cons, Piece.text, List.singleton_append, List.cons_append]
      by_cases hclose : c = '\x27' ∧
        ['\x27', '\x27'] <+: spell pieces ++ QuoteStyle.longLiteral.quotes
      · obtain ⟨rfl, hahead⟩ := hclose
        rcases pieces_of_quotes .longLiteral hahead with rfl | rfl | hnext
        · rfl
        · rfl
        · exact absurd hnext (hquotes rfl)
      · have hstep : longLiteralBody (c :: (spell pieces ++ QuoteStyle.longLiteral.quotes)) =
            consChar c (longLiteralBody (spell pieces ++ QuoteStyle.longLiteral.quotes)) := by
          by_cases hc : c = '\r'
          · subst hc
            obtain hn | ⟨-, hhead⟩ := hcontrol rfl
            · cases hn
            · exact longLiteralBody_lineEnd (head_spell_append hhead _)
          · exact longLiteralBody_plain
              (fun hd => (hcontrol hd).resolve_right fun hr => hc hr.1) fun hq hp => hclose ⟨hq, hp⟩
        rw [hstep, ih hrest]
        rfl
    | escape e => exact absurd hpiece.1 (by decide)
    | code letter digits => exact absurd hpiece.1 (by decide)
    | joint blanks => exact absurd hpiece.1 (by decide)

/-! ## What is read is written -/

/-- A text that starts with a row of pieces and the closing quotes, the characters that the pieces
stand for, and the rest of the text. -/
def StartsWith (style : QuoteStyle) (text value rest : List Char) : Prop :=
  ∃ pieces, text = spell pieces ++ (style.quotes ++ rest) ∧ decode pieces = value ∧
    Fits style pieces

lemma StartsWith.cons {style : QuoteStyle} {s v rest : List Char} (h : StartsWith style s v rest)
    (piece : Piece) {c : Char} (hchar : piece.char? = some c)
    (hpiece : ∀ pieces, s = spell pieces ++ (style.quotes ++ rest) →
      piece.StandsBefore style pieces) :
    StartsWith style (piece.text ++ s) (c :: v) rest := by
  obtain ⟨pieces, rfl, rfl, hfits⟩ := h
  exact ⟨piece :: pieces, by simp, decode_cons_of_some hchar pieces, hpiece pieces rfl, hfits⟩

lemma StartsWith.escape {style : QuoteStyle} {s v rest : List Char}
    (h : StartsWith style s v rest) (hstyle : style.escapes = true) {e c : Char}
    (he : simpleEscape? e = some c) : StartsWith style ('\\' :: e :: s) (c :: v) rest :=
  h.cons (.escape e) he fun _ _ => ⟨hstyle, Option.isSome_of_eq_some he⟩

lemma StartsWith.code {style : QuoteStyle} {s v rest : List Char}
    (h : StartsWith style s v rest) (hstyle : style.escapes = true) {letter c : Char}
    {digits : List Char} (hdigits : codePoint? digits = some c)
    (hletter : (letter, digits.length) ∈ [('x', 2), ('u', 4), ('U', 8)]) :
    StartsWith style ('\\' :: letter :: (digits ++ s)) (c :: v) rest :=
  h.cons (.code letter digits) hdigits fun _ _ =>
    ⟨hstyle, Option.isSome_of_eq_some hdigits, hletter⟩

lemma StartsWith.plain {style : QuoteStyle} {s v rest : List Char}
    (h : StartsWith style s v rest) {c : Char} (hb : style.escapes = true → c ≠ '\\')
    (hc : ∀ pieces, s = spell pieces ++ (style.quotes ++ rest) → style.Admits c pieces) :
    StartsWith style (c :: s) (c :: v) rest :=
  h.cons (.plain c) rfl fun pieces hs => ⟨hb, hc pieces hs⟩

lemma startsWith_of_basicBody {s v rest : List Char} (h : basicBody s = .ok (v, rest)) :
    StartsWith .basic s v rest := by
  fun_induction basicBody s generalizing v with
  | case1 s =>
    cases h
    exact ⟨[], rfl, rfl, trivial⟩
  | case2 a b s c hc ih =>
    obtain ⟨u, hu, rfl⟩ := exists_of_consChar h
    exact (ih hu).code rfl hc (by simp)
  | case4 a b c d s x hc ih =>
    obtain ⟨u, hu, rfl⟩ := exists_of_consChar h
    exact (ih hu).code rfl hc (by simp)
  | case6 a b c d e f g i s x hc ih =>
    obtain ⟨u, hu, rfl⟩ := exists_of_consChar h
    exact (ih hu).code rfl hc (by simp)
  | case8 e s hx hu hU c hc ih =>
    obtain ⟨u, hu, rfl⟩ := exists_of_consChar h
    exact (ih hu).escape rfl hc
  | case11 c s hq hx hu hU he hc ih =>
    obtain ⟨u, hu, rfl⟩ := exists_of_consChar h
    obtain ⟨hcontrol, hb⟩ : isControl c = false ∧ c ≠ '\\' := by simpa using hc
    exact (ih hu).plain (fun _ => hb) fun _ _ => ⟨hcontrol, hq⟩
  | _ => cases h

lemma startsWith_of_literalBody {s v rest : List Char} (h : literalBody s = .ok (v, rest)) :
    StartsWith .literal s v rest := by
  fun_induction literalBody s generalizing v with
  | case1 s =>
    cases h
    exact ⟨[], rfl, rfl, trivial⟩
  | case3 c s hq hc ih =>
    obtain ⟨u, hu, rfl⟩ := exists_of_consChar h
    exact (ih hu).plain nofun fun _ _ => ⟨by simpa using hc, hq⟩
  | _ => cases h

/-- A quote that is not the first of three in the text is not the first of three pieces. -/
lemma not_quotes_of_spell {style : QuoteStyle} {pieces : List Piece} {s t : List Char}
    (hs : s = spell pieces ++ t) (h : ¬ [style.quote, style.quote] <+: s) :
    ¬ [.plain style.quote, .plain style.quote] <+: pieces := by
  rintro ⟨rest, rfl⟩
  exact h ⟨spell rest ++ t, hs.symm⟩

lemma head_of_spell {style : QuoteStyle} {pieces : List Piece} {s t : List Char}
    (hs : '\n' :: s = spell pieces ++ (style.quotes ++ t)) :
    pieces.head? = some (.plain '\n') := by
  cases pieces with
  | nil => cases style <;> cases hs
  | cons piece pieces =>
    rw [spell_cons, List.append_assoc] at hs
    rw [(eq_plain_of_text (by decide) hs.symm).1]
    rfl

lemma StartsWith.lineEnd {style : QuoteStyle} (hlong : style.isLong = true) {s v rest : List Char}
    (h : StartsWith style s v rest) :
    StartsWith style ('\r' :: '\n' :: s) ('\r' :: '\n' :: v) rest := by
  have hquote : '\r' ≠ style.quote ∧ '\n' ≠ style.quote := by cases style <;> decide
  have hfeed : StartsWith style ('\n' :: s) ('\n' :: v) rest := by
    refine h.plain (fun _ => by decide) fun pieces hs => ?_
    rw [QuoteStyle.Admits, if_pos hlong]
    exact ⟨fun _ => .inl rfl, fun hq => absurd hq hquote.2⟩
  refine hfeed.plain (fun _ => by decide) fun pieces hs => ?_
  rw [QuoteStyle.Admits, if_pos hlong]
  exact ⟨fun _ => .inr ⟨rfl, head_of_spell hs⟩, fun hq => absurd hq hquote.1⟩

lemma startsWith_of_longLiteralBody {s v rest : List Char}
    (h : longLiteralBody s = .ok (v, rest)) : StartsWith .longLiteral s v rest := by
  fun_induction longLiteralBody s generalizing v with
  | case1 s =>
    cases h
    exact ⟨[.plain '\x27', .plain '\x27'], rfl, rfl, by decide⟩
  | case2 s =>
    cases h
    exact ⟨[.plain '\x27'], rfl, rfl, by decide⟩
  | case3 s =>
    cases h
    exact ⟨[], rfl, rfl, trivial⟩
  | case4 s ih =>
    obtain ⟨u, hu, rfl⟩ := exists_of_consChar h
    obtain ⟨w, hw, rfl⟩ := exists_of_consChar hu
    exact (ih hw).lineEnd rfl
  | case6 c s h5 h4 h3 hcr hc ih =>
    obtain ⟨u, hu, rfl⟩ := exists_of_consChar h
    refine (ih hu).plain nofun fun pieces hs => ⟨fun hcontrol => .inl ?_, fun hq => ?_⟩
    · simpa [hcontrol] using hc
    · exact not_quotes_of_spell hs fun ⟨t, ht⟩ => h3 t hq ht.symm
  | _ => cases h

lemma startsWith_of_longBasicBody {skip : Nat} {s v rest : List Char}
    (h : longBasicBody skip s = .ok (v, rest)) : StartsWith .longBasic (s.drop skip) v rest := by
  fun_induction longBasicBody skip s generalizing v with
  | case1 skip c s ih => exact ih h
  | case2 s =>
    cases h
    exact ⟨[.plain '\x22', .plain '\x22'], rfl, rfl, by decide⟩
  | case3 s =>
    cases h
    exact ⟨[.plain '\x22'], rfl, rfl, by decide⟩
  | case4 s =>
    cases h
    exact ⟨[], rfl, rfl, trivial⟩
  | case5 a b s c hc ih =>
    obtain ⟨u, hu, rfl⟩ := exists_of_consChar h
    exact (ih hu).code rfl hc (by simp)
  | case7 a b c d s x hc ih =>
    obtain ⟨u, hu, rfl⟩ := exists_of_consChar h
    exact (ih hu).code rfl hc (by simp)
  | case9 a b c d e f g i s x hc ih =>
    obtain ⟨u, hu, rfl⟩ := exists_of_consChar h
    exact (ih hu).code rfl hc (by simp)
  | case11 e s hx hu hU hstart ih =>
    obtain ⟨blanks, tail, hs, hrun, hblanks, htail, hend⟩ := exists_blanks (e :: s)
    obtain ⟨pieces, htext, hvalue, hfits⟩ := ih h
    have htail_eq : s.drop (blankRun (e :: s) - 1) = tail := by
      cases blanks with
      | nil => exact absurd (hend hstart) (by decide)
      | cons d blanks =>
        have hs : s = blanks ++ tail := (List.cons.inj hs).2
        rw [hrun, hs, List.length_cons, Nat.add_sub_cancel, List.drop_left]
    rw [htail_eq] at htext
    have hnext : blankRun (spell pieces) = 0 := by
      rw [← htail, htext]
      exact (blankRun_append_quote _ _).symm
    exact ⟨.joint blanks :: pieces, by simp [Piece.text, hs, htext], hvalue,
      ⟨rfl, hend hstart, hblanks, hnext⟩, hfits⟩
  | case12 e s hx hu hU hstart c hc ih =>
    obtain ⟨u, hu, rfl⟩ := exists_of_consChar h
    exact (ih hu).escape rfl hc
  | case14 s ih =>
    obtain ⟨u, hu, rfl⟩ := exists_of_consChar h
    obtain ⟨w, hw, rfl⟩ := exists_of_consChar hu
    exact (ih hw).lineEnd rfl
  | case16 c s h5 h4 h3 hx hu hU he hcr hc ih =>
    obtain ⟨u, hu, rfl⟩ := exists_of_consChar h
    obtain ⟨hcontrol, hb⟩ : (isControl c = true → c = '\n') ∧ c ≠ '\\' := by simpa using hc
    refine (ih hu).plain (fun _ => hb) fun pieces hs =>
      ⟨fun hctl => .inl (hcontrol hctl), fun hq => ?_⟩
    exact not_quotes_of_spell hs fun ⟨t, ht⟩ => h3 t hq ht.symm
  | _ => cases h

/-! ## Reading a whole text -/

lemma dropLineEnd_of_not_starts {s : List Char} (h : ¬ startsLineEnd s = true) :
    dropLineEnd s = s := by
  fun_cases dropLineEnd s with
  | case1 s => exact absurd rfl h
  | case2 s => exact absurd rfl h
  | case3 => rfl

/-- A text is the line end it may start with and the rest of it. -/
lemma exists_leading (s : List Char) :
    ∃ leading ∈ [[], ['\n'], ['\r', '\n']], s = leading ++ dropLineEnd s ∧
      (startsLineEnd (dropLineEnd s) = true → leading ≠ []) := by
  by_cases h : startsLineEnd s = true
  · cases s with
    | nil => exact absurd h (by decide)
    | cons c s =>
      rcases startsLineEnd_cons.1 h with rfl | ⟨rfl, hs⟩
      · exact ⟨['\n'], by simp, rfl, by simp⟩
      · obtain ⟨t, rfl⟩ := List.head?_eq_some_iff.1 hs
        exact ⟨['\r', '\n'], by simp, rfl, by simp⟩
  · rw [dropLineEnd_of_not_starts h]
    exact ⟨[], by simp, rfl, fun hstart => absurd hstart h⟩

lemma startsLineEnd_append_quotes (style : QuoteStyle) (s : List Char) :
    startsLineEnd (s ++ style.quotes) = startsLineEnd s := by
  cases s with
  | nil => cases style <;> rfl
  | cons c s =>
    rw [Bool.eq_iff_iff, List.cons_append, startsLineEnd_cons, startsLineEnd_cons]
    cases s with
    | nil => cases style <;> simp [QuoteStyle.quotes, QuoteStyle.isLong, QuoteStyle.quote]
    | cons d s => rfl

lemma Quoted.leading_cases (q : Quoted) (hlong : q.style.isLong = true) :
    (q.leading = [] ∧ ¬ startsLineEnd q.body = true) ∨ q.leading = ['\n'] ∨
      q.leading = ['\r', '\n'] := by
  have hmem := q.leading_mem
  rw [if_pos hlong] at hmem
  simp only [List.mem_cons, List.not_mem_nil, or_false] at hmem
  refine hmem.imp_left fun hnil => ⟨hnil, fun hstart => q.leading_ne_nil hlong ?_ hnil⟩
  rwa [Quoted.body, hnil, List.nil_append, startsLineEnd_append_quotes] at hstart

lemma Quoted.leading_eq_nil (q : Quoted) (hline : q.style.isLong = false) : q.leading = [] := by
  have hmem := q.leading_mem
  rw [hline] at hmem
  exact List.mem_singleton.1 hmem

lemma dropLineEnd_body (q : Quoted) (hlong : q.style.isLong = true) :
    dropLineEnd q.body = spell q.pieces ++ q.style.quotes := by
  rcases q.leading_cases hlong with ⟨hnil, hstart⟩ | hfeed | hreturn
  · rw [dropLineEnd_of_not_starts hstart, Quoted.body, hnil, List.nil_append]
  · rw [Quoted.body, hfeed]
    rfl
  · rw [Quoted.body, hreturn]
    rfl

lemma body_of_not_isLong (q : Quoted) (hline : q.style.isLong = false) :
    q.body = spell q.pieces ++ q.style.quotes := by
  rw [Quoted.body, q.leading_eq_nil hline, List.nil_append]

lemma readQuoted_body (q : Quoted) : readQuoted q.style q.body = .ok (q.value, []) := by
  have hline := body_of_not_isLong q
  have hlong := dropLineEnd_body q
  cases q with
  | mk style leading pieces hmem hne hfits =>
    cases style with
    | basic => exact (congrArg basicBody (hline rfl)).trans (basicBody_spell hfits [])
    | literal => exact (congrArg literalBody (hline rfl)).trans (literalBody_spell hfits [])
    | longBasic =>
      exact (congrArg (longBasicBody 0) (hlong rfl)).trans (longBasicBody_spell hfits)
    | longLiteral =>
      exact (congrArg longLiteralBody (hlong rfl)).trans (longLiteralBody_spell hfits)

/-- A string on one line does not start with a quote, so its own is not taken for the first of
three. -/
lemma not_quotes_body (q : Quoted) (hline : q.style.isLong = false) :
    ¬ [q.style.quote, q.style.quote] <+: q.body := by
  rw [body_of_not_isLong q hline]
  rintro ⟨t, ht⟩
  have hfits := q.fits
  cases hpieces : q.pieces with
  | nil =>
    rw [hpieces, QuoteStyle.quotes, hline] at ht
    cases ht
  | cons piece pieces =>
    rw [hpieces, spell_cons, List.append_assoc] at ht
    rw [hpieces] at hfits
    obtain ⟨rfl, -⟩ := eq_plain_of_text q.style.quote_ne_backslash ht.symm
    have hadmits := hfits.1.2
    rw [QuoteStyle.Admits, hline] at hadmits
    exact hadmits.2 rfl

lemma openQuote_text (q : Quoted) : openQuote? q.text = some (q.style, q.body) := by
  have hquotes := not_quotes_body q
  rw [Quoted.text]
  generalize q.body = body at *
  cases hstyle : q.style with
  | basic =>
    rw [hstyle] at hquotes
    have hnot : ∀ t, body = '\x22' :: '\x22' :: t → False := fun t ht => hquotes rfl ⟨t, ht.symm⟩
    show openQuote? ('\x22' :: body) = _
    rw [openQuote?]
    exact hnot
  | literal =>
    rw [hstyle] at hquotes
    have hnot : ∀ t, body = '\x27' :: '\x27' :: t → False := fun t ht => hquotes rfl ⟨t, ht.symm⟩
    show openQuote? ('\x27' :: body) = _
    rw [openQuote?]
    exact hnot
  | longBasic => rfl
  | longLiteral => rfl

lemma text_of_openQuote {text body : List Char} {style : QuoteStyle}
    (h : openQuote? text = some (style, body)) : text = style.quotes ++ body := by
  revert h
  fun_cases openQuote? text <;> intro h <;> cases h <;> rfl

lemma startsWith_of_readQuoted {style : QuoteStyle} {body value : List Char}
    (h : readQuoted style body = .ok (value, [])) :
    ∃ leading ∈ if style.isLong then [[], ['\n'], ['\r', '\n']] else [[]],
      ∃ s, body = leading ++ s ∧ StartsWith style s value [] ∧
        (style.isLong = true → startsLineEnd s = true → leading ≠ []) := by
  obtain ⟨leading, hmem, hbody, hne⟩ := exists_leading body
  cases style with
  | basic => exact ⟨[], .head _, body, rfl, startsWith_of_basicBody h, nofun⟩
  | literal => exact ⟨[], .head _, body, rfl, startsWith_of_literalBody h, nofun⟩
  | longBasic => exact ⟨leading, hmem, _, hbody, startsWith_of_longBasicBody h, fun _ => hne⟩
  | longLiteral => exact ⟨leading, hmem, _, hbody, startsWith_of_longLiteralBody h, fun _ => hne⟩

/-- The reader takes a whole text as a string exactly if the text is a written string with that
value. -/
theorem reads_iff {text value : List Char} :
    Reads text value ↔ ∃ q : Quoted, q.text = text ∧ q.value = value := by
  constructor
  · rintro ⟨style, body, hopen, hread⟩
    obtain ⟨leading, hmem, s, rfl, ⟨pieces, hs, hvalue, hfits⟩, hne⟩ :=
      startsWith_of_readQuoted hread
    rw [List.append_nil] at hs
    have hstart : style.isLong = true → startsLineEnd (spell pieces) = true → leading ≠ [] := by
      rwa [hs, startsLineEnd_append_quotes] at hne
    refine ⟨⟨style, leading, pieces, hmem, hstart, hfits⟩, ?_, hvalue⟩
    rw [text_of_openQuote hopen, hs]
    rfl
  · rintro ⟨q, rfl, rfl⟩
    exact ⟨q.style, q.body, openQuote_text q, readQuoted_body q⟩

lemma reads_unique {text u v : List Char} (hu : Reads text u) (hv : Reads text v) : u = v := by
  obtain ⟨style, body, hopen, hread⟩ := hu
  obtain ⟨style', body', hopen', hread'⟩ := hv
  obtain ⟨rfl, rfl⟩ : style = style' ∧ body = body' := by
    simpa using hopen.symm.trans hopen'
  simpa using hread.symm.trans hread'

end Blueprint.Toml
