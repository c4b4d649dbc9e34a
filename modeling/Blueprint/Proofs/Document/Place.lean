import Blueprint.Document.Place
import Blueprint.Proofs.Text.Position
import Blueprint.Proofs.Toml.Quoting
import Mathlib.Data.List.TakeWhile

/-!
# The place of a character inside a quoted string

The walk over a raw string is compared with the pieces it is written in.  A piece that stands for
a character is one step of the walk, of the length of its text.  A joint stands for none, and two
things go wrong at it: a walk that has passed all characters stops before the joint and not behind
it, and the step over a joint takes every blank of Unicode away, where the reader takes only spaces,
tabs and line ends.

Main statement: `valueOffset_eq_pieceOffset_iff`, a column is found at its place exactly if neither
happens on the way.
-/

namespace Blueprint.Document

open Text Toml

/-! ## Walking over one piece -/

@[simp] lemma walk_zero (literal : Bool) (s : List Char) : walk literal 0 0 s = 0 := by
  cases s <;> rfl

lemma walk_pos {s : List Char} (hs : s ≠ []) (literal : Bool) {target : Nat} (ht : 0 < target) :
    0 < walk literal target 0 s := by
  obtain ⟨c, s, rfl⟩ := List.exists_cons_of_ne_nil hs
  obtain ⟨target, rfl⟩ := Nat.exists_eq_add_one.2 ht
  have hpos := c.utf8Size_pos
  rw [walk]
  omega

/-- Bytes that belong to a step already taken are passed. -/
lemma walk_skip (literal : Bool) (target : Nat) (skipped s : List Char) :
    walk literal target (byteLength skipped) (skipped ++ s) =
      byteLength skipped + walk literal target 0 s := by
  induction skipped with
  | nil => simp
  | cons c skipped ih =>
    have hpos := c.utf8Size_pos
    obtain ⟨n, hn⟩ : ∃ n, c.utf8Size + byteLength skipped = n + 1 :=
      Nat.exists_eq_add_one.2 (by omega)
    have hrest : n + 1 - c.utf8Size = byteLength skipped := by omega
    rw [byteLength_cons, hn, List.cons_append, walk, if_pos (by omega), hrest, ih]
    omega

lemma walk_plain {literal : Bool} {c : Char} (hc : literal = false → c ≠ '\\') (target : Nat)
    (s : List Char) :
    walk literal (target + 1) 0 (c :: s) = c.utf8Size + walk literal target 0 s := by
  have hstep : stepAt literal c s = ⟨c.utf8Size, true⟩ := by
    rw [stepAt, if_neg]
    cases literal <;> simp_all
  rw [walk, hstep, if_pos rfl, Nat.sub_self]

/-- An escape is walked over if the step at its backslash has its length. -/
lemma walk_backslash {taken s : List Char} {produces : Bool}
    (hstep : stepAt false '\\' (taken ++ s) = ⟨1 + byteLength taken, produces⟩) (target : Nat) :
    walk false (target + 1) 0 ('\\' :: (taken ++ s)) =
      1 + byteLength taken + walk false (if produces then target else target + 1) 0 s := by
  have hsize : 1 + byteLength taken - '\\'.utf8Size = byteLength taken := Nat.add_sub_cancel_left ..
  rw [walk, hstep, hsize, walk_skip, ← Nat.add_assoc]
  rfl

lemma size_of_hexDigit {c : Char} (h : (hexDigit? c).isSome) : c.utf8Size = 1 := by
  have hle : c ≤ 'f' := by
    unfold hexDigit? at h
    split at h
    next hc => exact Char.le_trans hc.2 (by decide)
    split at h
    next hc => exact hc.2
    split at h
    next hc => exact Char.le_trans hc.2 (by decide)
    cases h
  exact Char.utf8Size_eq_one_iff.2 (UInt32.le_trans hle (by decide))

lemma isSome_of_hexValue {digits : List Char} (h : (hexValue? digits).isSome) :
    ∀ c ∈ digits, (hexDigit? c).isSome := by
  -- a missing digit leaves the value missing, whatever was read before
  have hfold : ∀ (digits : List Char) (value : Option Nat),
      (digits.foldl (fun value c => do return 16 * (← value) + (← hexDigit? c)) value).isSome →
        value.isSome ∧ ∀ c ∈ digits, (hexDigit? c).isSome := by
    intro digits
    induction digits with
    | nil => simp
    | cons c digits ih =>
      intro value h
      obtain ⟨hvalue, hrest⟩ := ih _ h
      cases value with
      | none => cases hvalue
      | some n =>
        cases hc : hexDigit? c with
        | none => simp [hc] at hvalue
        | some m => simpa [hc] using hrest
  exact (hfold digits (some 0) h).2

lemma byteLength_of_codePoint {digits : List Char} (h : (codePoint? digits).isSome) :
    byteLength digits = digits.length := by
  have hvalue : (hexValue? digits).isSome := by
    rw [codePoint?] at h
    exact Option.isSome_of_isSome_bind h
  have hdigits := isSome_of_hexValue hvalue
  clear h hvalue
  induction digits with
  | nil => rfl
  | cons c digits ih =>
    rw [List.forall_mem_cons] at hdigits
    rw [byteLength_cons, size_of_hexDigit hdigits.1, ih hdigits.2, List.length_cons, Nat.add_comm]

/-- A piece of TOML 1.0 that stands for a character is walked over in one step. -/
lemma walk_piece {style : QuoteStyle} {rest : List Piece} {piece : Piece} {c : Char}
    (h : piece.StandsBefore style rest) (hchar : piece.char? = some c)
    (hpiece : piece.isToml10 = true) (target : Nat) (s : List Char) :
    walk (!style.escapes) (target + 1) 0 (piece.text ++ s) =
      byteLength piece.text + walk (!style.escapes) target 0 s := by
  cases piece with
  | plain d => exact walk_plain (fun hl => h.1 (by simpa using hl)) target s
  | escape e =>
    obtain ⟨hstyle, -⟩ := h
    have hstep : stepAt false '\\' ([e] ++ s) = ⟨1 + byteLength [e], true⟩ := by
      have hmem := mem_of_simpleEscape hchar
      simp only [List.mem_cons, List.not_mem_nil, or_false] at hmem
      rcases hmem with rfl | rfl | rfl | rfl | rfl | rfl | rfl | rfl <;> rfl
    rw [hstyle]
    exact walk_backslash hstep target
  | code letter digits =>
    obtain ⟨hstyle, hdigits, hletter⟩ := h
    have hlength := byteLength_of_codePoint hdigits
    have hstep : stepAt false '\\' ((letter :: digits) ++ s) =
        ⟨1 + byteLength (letter :: digits), true⟩ := by
      rw [byteLength_cons, hlength]
      rcases code_shape hletter with ⟨rfl, -⟩ | ⟨rfl, _, _, _, _, rfl⟩ |
        ⟨rfl, _, _, _, _, _, _, _, _, rfl⟩
      · cases hpiece
      · rfl
      · rfl
    rw [hstyle]
    exact walk_backslash hstep target
  | joint blanks => cases hchar

/-- The walk from right after a joint: all blanks are passed first. -/
def walkBlanks (literal : Bool) (target : Nat) (s : List Char) : Nat :=
  byteLength (s.takeWhile isBlank) + walk literal target 0 (s.dropWhile isBlank)

lemma walkBlanks_blank {c : Char} (hc : isBlank c = true) (literal : Bool) (target : Nat)
    (s : List Char) :
    walkBlanks literal target (c :: s) = c.utf8Size + walkBlanks literal target s := by
  rw [walkBlanks, List.takeWhile_cons_of_pos hc, List.dropWhile_cons_of_pos hc, byteLength_cons,
    Nat.add_assoc]
  rfl

lemma walkBlanks_other {c : Char} (hc : ¬ isBlank c = true) (literal : Bool) (target : Nat)
    (s : List Char) : walkBlanks literal target (c :: s) = walk literal target 0 (c :: s) := by
  rw [walkBlanks, List.takeWhile_cons_of_neg hc, List.dropWhile_cons_of_neg hc, byteLength_nil,
    Nat.zero_add]

lemma walk_joint {style : QuoteStyle} {rest : List Piece} {blanks : List Char}
    (h : (Piece.joint blanks).StandsBefore style rest) (target : Nat) (s : List Char) :
    walk (!style.escapes) (target + 1) 0 ((Piece.joint blanks).text ++ s) =
      byteLength (Piece.joint blanks).text + walkBlanks (!style.escapes) (target + 1) s := by
  obtain ⟨rfl, hstart, hblanks, -⟩ := h
  have hmem := mem_of_blankRun hblanks
  have hblank : ∀ c ∈ blanks, isBlank c = true := fun c hc =>
    List.all_eq_true.1 (show [' ', '\t', '\n', '\r'].all isBlank from by decide) c (hmem c hc)
  have hstep : stepAt false '\\' (blanks ++ s) =
      ⟨1 + byteLength (blanks ++ s.takeWhile isBlank), false⟩ := by
    cases blanks with
    | nil => exact absurd hstart (by decide)
    | cons e blanks =>
      rw [← List.takeWhile_append_of_pos hblank]
      have he := hmem e List.mem_cons_self
      simp only [List.mem_cons, List.not_mem_nil, or_false] at he
      rcases he with rfl | rfl | rfl | rfl <;> rfl
  have hs : blanks ++ s = (blanks ++ s.takeWhile isBlank) ++ s.dropWhile isBlank := by
    rw [List.append_assoc, List.takeWhile_append_dropWhile]
  rw [hs] at hstep
  refine (congrArg (walk false (target + 1) 0) (congrArg ('\\' :: ·) hs)).trans
    ((walk_backslash hstep target).trans ?_)
  rw [byteLength_append, walkBlanks]
  simp only [Piece.text, byteLength_cons, show '\\'.utf8Size = 1 from rfl]
  simp [Nat.add_assoc, QuoteStyle.escapes]

/-! ## Walking over a row of pieces -/

/-- Whether a piece is a blank that stands for itself. -/
def isBlankPiece : Piece → Bool
  | .plain c => isBlank c
  | _ => false

/-- Whether each joint of a row is followed by a piece of the row, and this is no blank. -/
def Clear : List Piece → Prop
  | [] => True
  | .joint _ :: rest => rest.head?.any (fun piece => !isBlankPiece piece) = true ∧ Clear rest
  | _ :: rest => Clear rest

instance Clear.decidable : (pieces : List Piece) → Decidable (Clear pieces)
  | [] => isTrue trivial
  | .joint _ :: rest => @instDecidableAnd _ _ _ (Clear.decidable rest)
  | .plain _ :: rest => Clear.decidable rest
  | .escape _ :: rest => Clear.decidable rest
  | .code _ _ :: rest => Clear.decidable rest

lemma clear_cons {piece : Piece} {c : Char} (h : piece.char? = some c) (rest : List Piece) :
    Clear (piece :: rest) ↔ Clear rest := by
  cases piece with
  | joint blanks => cases h
  | _ => rfl

lemma clear_joint (blanks : List Char) (piece : Piece) (rest : List Piece) :
    Clear (.joint blanks :: piece :: rest) ↔
      isBlankPiece piece = false ∧ Clear (piece :: rest) := by
  simp [Clear]

lemma not_clear_joint (blanks : List Char) : ¬ Clear [.joint blanks] := by
  simp [Clear]

lemma exists_text_of_not_blank {piece : Piece} (h : isBlankPiece piece = false) (s : List Char) :
    ∃ c t, piece.text ++ s = c :: t ∧ ¬ isBlank c = true := by
  cases piece with
  | plain c => exact ⟨c, s, rfl, by simpa [isBlankPiece] using h⟩
  | escape e => exact ⟨'\\', _, rfl, by decide⟩
  | code letter digits => exact ⟨'\\', _, rfl, by decide⟩
  | joint blanks => exact ⟨'\\', _, rfl, by decide⟩

lemma walkBlanks_of_not_blank {piece : Piece} (h : isBlankPiece piece = false) (literal : Bool)
    (target : Nat) (s : List Char) :
    walkBlanks literal target (piece.text ++ s) = walk literal target 0 (piece.text ++ s) := by
  obtain ⟨c, t, htext, hc⟩ := exists_text_of_not_blank h s
  rw [htext, walkBlanks_other hc]

lemma length_decode_dropWhile_le (pieces : List Piece) :
    (decode (pieces.dropWhile isBlankPiece)).length ≤ (decode pieces).length :=
  ((List.dropWhile_suffix isBlankPiece).sublist.filterMap Piece.char?).length_le

section Row

variable {style : QuoteStyle} {after : List Piece} {s : List Char}

/-- A walk that is to pass more characters than a row has goes past it, also from right after a
joint, where it passes the blanks of the row without counting them. -/
lemma lt_walk (hs : ∃ c ∈ s, ¬ isBlank c = true) {before : List Piece}
    (hfits : Fits style (before ++ after)) (hbefore : ∀ piece ∈ before, piece.isToml10 = true) :
    (∀ target, (decode before).length < target →
      byteLength (spell before) < walk (!style.escapes) target 0 (spell before ++ s)) ∧
    (∀ target, (decode (before.dropWhile isBlankPiece)).length < target →
      byteLength (spell before) < walkBlanks (!style.escapes) target (spell before ++ s)) := by
  -- both at once: a joint leads from the first to the second, a piece that is no blank back
  induction before with
  | nil =>
    obtain ⟨c, hmem, hc⟩ := hs
    refine ⟨fun target ht => walk_pos (List.ne_nil_of_mem hmem) _ ht, fun target ht => ?_⟩
    have hrest : s.dropWhile isBlank ≠ [] := fun hnil =>
      hc (List.dropWhile_eq_nil_iff.1 hnil c hmem)
    have hpos := walk_pos hrest (!style.escapes) ht
    simp only [spell_nil, List.nil_append, byteLength_nil, walkBlanks]
    omega
  | cons piece before ih =>
    rw [List.forall_mem_cons] at hbefore
    obtain ⟨hpiece, hrest⟩ := hfits
    obtain ⟨hwalk, hblanks⟩ := ih hrest hbefore.2
    have hfirst : ∀ target, (decode (piece :: before)).length < target →
        byteLength (spell (piece :: before)) <
          walk (!style.escapes) target 0 (spell (piece :: before) ++ s) := by
      intro target ht
      obtain ⟨target, rfl⟩ := Nat.exists_eq_add_one.2 (Nat.zero_lt_of_lt ht)
      rw [spell_cons, List.append_assoc, byteLength_append]
      rcases hpiece.char_or_joint with ⟨c, hc⟩ | ⟨-, blanks, rfl⟩
      · rw [decode_cons_of_some hc, List.length_cons] at ht
        rw [walk_piece hpiece hc hbefore.1]
        have hpast := hwalk target (by omega)
        omega
      · rw [decode_joint] at ht
        rw [walk_joint hpiece]
        have hle := length_decode_dropWhile_le before
        have hpast := hblanks (target + 1) (by omega)
        omega
    refine ⟨hfirst, fun target ht => ?_⟩
    by_cases hblank : isBlankPiece piece = true
    · rw [List.dropWhile_cons_of_pos hblank] at ht
      cases piece with
      | plain c =>
        have hpast := hblanks target ht
        rw [spell_cons, Piece.text, List.singleton_append, List.cons_append,
          walkBlanks_blank hblank, byteLength_cons]
        omega
      | _ => cases hblank
    · rw [List.dropWhile_cons_of_neg hblank] at ht
      have hpast := hfirst target ht
      rw [spell_cons, List.append_assoc] at hpast ⊢
      rwa [walkBlanks_of_not_blank (by simpa using hblank)]

/-- A row that is not empty and has no joint at its end stands for a character. -/
lemma decode_ne_nil {before : List Piece} (hfits : Fits style (before ++ after))
    (hclear : Clear before) (hne : before ≠ []) : decode before ≠ [] := by
  induction before with
  | nil => exact absurd rfl hne
  | cons piece before ih =>
    obtain ⟨hpiece, hrest⟩ := hfits
    rcases hpiece.char_or_joint with ⟨c, hc⟩ | ⟨-, blanks, rfl⟩
    · simp [decode_cons_of_some hc]
    · cases before with
      | nil => exact absurd hclear (not_clear_joint blanks)
      | cons next before =>
        exact ih hrest ((clear_joint blanks next before).1 hclear).2 (by simp)

/-- The walk that is to pass the characters of a row ends at its end exactly if the row is clear. -/
theorem walk_eq_iff (hs : ∃ c ∈ s, ¬ isBlank c = true) {before : List Piece}
    (hfits : Fits style (before ++ after)) (hbefore : ∀ piece ∈ before, piece.isToml10 = true) :
    walk (!style.escapes) (decode before).length 0 (spell before ++ s) = byteLength (spell before) ↔
      Clear before := by
  induction before with
  | nil => simp [Clear]
  | cons piece before ih =>
    have hne : Clear (piece :: before) → decode (piece :: before) ≠ [] :=
      fun hclear => decode_ne_nil hfits hclear (List.cons_ne_nil _ _)
    obtain ⟨hpiece, hrest⟩ := hfits
    rw [List.forall_mem_cons] at hbefore
    have ih := ih hrest hbefore.2
    rw [spell_cons, List.append_assoc, byteLength_append]
    rcases hpiece.char_or_joint with ⟨c, hc⟩ | ⟨-, blanks, rfl⟩
    · rw [decode_cons_of_some hc, List.length_cons, walk_piece hpiece hc hbefore.1,
        Nat.add_left_cancel_iff, ih, clear_cons hc]
    · rw [decode_joint] at hne ⊢
      cases hcount : (decode before).length with
      | zero =>
        -- the walk does not enter the joint
        refine iff_of_false ?_ fun hclear => hne hclear (List.length_eq_zero_iff.1 hcount)
        rw [walk_zero, Piece.text, byteLength_cons, show '\\'.utf8Size = 1 from rfl]
        omega
      | succ target =>
        rw [walk_joint hpiece, Nat.add_left_cancel_iff]
        cases before with
        | nil => cases hcount
        | cons next before =>
          rw [clear_joint]
          by_cases hnext : isBlankPiece next = true
          · -- the walk passes the blank without counting it, and so one character too many
            refine iff_of_false ?_ fun hclear => by simp [hnext] at hclear
            have hle := length_decode_dropWhile_le before
            have hlt := (lt_walk hs hrest hbefore.2).2 (target + 1)
            rw [List.dropWhile_cons_of_pos hnext] at hlt
            cases next with
            | plain c =>
              rw [decode_plain, List.length_cons] at hcount
              exact (hlt (by omega)).ne'
            | _ => cases hnext
          · have hnot : isBlankPiece next = false := by simpa using hnext
            rw [hcount] at ih
            rw [spell_cons, List.append_assoc] at ih ⊢
            rw [walkBlanks_of_not_blank hnot, ih]
            simp [hnot]

end Row

/-! ## The body of a written string -/

lemma lineEndSize_of_not_starts {s : List Char} (h : ¬ startsLineEnd s = true) :
    lineEndSize s = 0 := by
  fun_cases lineEndSize s with
  | case1 s => exact absurd rfl h
  | case2 s => exact absurd rfl h
  | case3 => rfl

lemma lineEndSize_body (q : Quoted) (hlong : q.style.isLong = true) :
    lineEndSize q.body = byteLength q.leading := by
  rcases q.leading_cases hlong with ⟨hnil, hstart⟩ | hfeed | hreturn
  · rw [lineEndSize_of_not_starts hstart, hnil, byteLength_nil]
  · rw [Quoted.body, hfeed]
    rfl
  · rw [Quoted.body, hreturn]
    rfl

lemma quotes_of_opensLong {c : Char} {s : List Char} (h : opensLong (c :: s) = true) :
    [c, c] <+: s := by
  rcases s with _ | ⟨d, _ | ⟨e, s⟩⟩
  · cases h
  · cases h
  · obtain ⟨⟨rfl, rfl⟩, -⟩ : (c = d ∧ d = e) ∧ _ := by simpa [opensLong] using h
    exact ⟨s, rfl⟩

lemma bodyStart_text (q : Quoted) :
    bodyStart q.text = byteLength (q.style.quotes ++ q.leading) := by
  rw [bodyStart, byteLength_append]
  cases hlong : q.style.isLong with
  | true =>
    have hopen : opensLong q.text = true := by
      rw [Quoted.text, QuoteStyle.quotes, hlong]
      cases q.style <;> rfl
    have hbody : q.text.drop 3 = q.body := by
      rw [Quoted.text, QuoteStyle.quotes, hlong]
      rfl
    rw [if_pos hopen, hbody, lineEndSize_body q hlong, QuoteStyle.quotes, hlong]
    cases q.style <;> rfl
  | false =>
    have htext : q.text = q.style.quote :: q.body := by
      rw [Quoted.text, QuoteStyle.quotes, hlong]
      rfl
    have hquote : q.style.quote.utf8Size = 1 := by cases q.style <;> rfl
    rw [if_neg fun hopen => not_quotes_body q hlong (quotes_of_opensLong (htext ▸ hopen)), htext,
      q.leading_eq_nil hlong, QuoteStyle.quotes, hlong]
    simp [hquote]

lemma valueOffset_text (q : Quoted) (column : Nat) :
    valueOffset q.text column = byteLength (q.style.quotes ++ q.leading) +
      walk (!q.style.escapes) (column - 1) 0 (spell q.pieces ++ q.style.quotes) := by
  have hbody : q.text = (q.style.quotes ++ q.leading) ++ (spell q.pieces ++ q.style.quotes) := by
    rw [Quoted.text, Quoted.body, List.append_assoc]
  have hliteral : decide (q.text.head? = some '\x27') = !q.style.escapes := by
    rw [Quoted.text]
    cases q.style <;> rfl
  rw [valueOffset, bodyStart_text, hliteral, hbody, dropBytes?_append]
  rfl

/-! ## The place of a character -/

/-- The pieces before the one that stands for the character at an index; all pieces for the index
after the last character. -/
def piecesBefore : Nat → List Piece → List Piece
  | _, [] => []
  | index, piece :: rest =>
    match piece.char?, index with
    | none, index => piece :: piecesBefore index rest
    | some _, 0 => []
    | some _, index + 1 => piece :: piecesBefore index rest

lemma exists_after (pieces : List Piece) {index : Nat} (h : index ≤ (decode pieces).length) :
    ∃ after, pieces = piecesBefore index pieces ++ after ∧
      (decode (piecesBefore index pieces)).length = index ∧
      after.head?.map Piece.char? = (decode pieces)[index]?.map some := by
  induction pieces generalizing index with
  | nil =>
    obtain rfl : index = 0 := by simpa using h
    exact ⟨[], rfl, rfl, rfl⟩
  | cons piece pieces ih =>
    cases hc : piece.char? with
    | none =>
      have hdecode : ∀ rest, decode (piece :: rest) = decode rest :=
        fun rest => List.filterMap_cons_none hc
      have hbefore : piecesBefore index (piece :: pieces) = piece :: piecesBefore index pieces := by
        simp only [piecesBefore, hc]
      rw [hdecode] at h
      obtain ⟨after, happend, hlength, hhead⟩ := ih h
      refine ⟨after, ?_, ?_, ?_⟩
      · rw [hbefore, List.cons_append, ← happend]
      · rw [hbefore, hdecode, hlength]
      · rw [hdecode, hhead]
    | some c =>
      rw [decode_cons_of_some hc] at h ⊢
      cases index with
      | zero =>
        have hbefore : piecesBefore 0 (piece :: pieces) = [] := by simp only [piecesBefore, hc]
        rw [hbefore]
        exact ⟨piece :: pieces, rfl, rfl, by simp [hc]⟩
      | succ index =>
        have hbefore : piecesBefore (index + 1) (piece :: pieces) =
            piece :: piecesBefore index pieces := by simp only [piecesBefore, hc]
        obtain ⟨after, happend, hlength, hhead⟩ := ih (Nat.le_of_succ_le_succ h)
        refine ⟨after, ?_, ?_, ?_⟩
        · rw [hbefore, List.cons_append, ← happend]
        · rw [hbefore, decode_cons_of_some hc, List.length_cons, hlength]
        · rw [List.getElem?_cons_succ, hhead]

/-- The offset in a written string of the piece that stands for the character at a column, counted
from 1; that of the closing quotes for the column after the last. -/
def pieceOffset (q : Quoted) (column : Nat) : Nat :=
  byteLength (q.style.quotes ++ q.leading ++ spell (piecesBefore (column - 1) q.pieces))

lemma clear_of_ne_longBasic {style : QuoteStyle} (hstyle : style ≠ .longBasic)
    {before after : List Piece} (hfits : Fits style (before ++ after)) : Clear before := by
  induction before with
  | nil => trivial
  | cons piece before ih =>
    rcases hfits.1.char_or_joint with ⟨c, hc⟩ | ⟨hlong, -⟩
    · exact (clear_cons hc before).2 (ih hfits.2)
    · exact absurd hlong hstyle

/-- Where a written string is cut, the offset of the column after the first part is the place of the
cut exactly if the first part is clear. -/
lemma valueOffset_cut (q : Quoted) (hpieces : ∀ piece ∈ q.pieces, piece.isToml10 = true)
    {before after : List Piece} (hcut : q.pieces = before ++ after) :
    valueOffset q.text ((decode before).length + 1) =
        byteLength (q.style.quotes ++ q.leading ++ spell before) ↔ Clear before := by
  have hquote : ∃ c ∈ spell after ++ q.style.quotes, ¬ isBlank c = true := by
    refine ⟨q.style.quote, List.mem_append_right _ ?_, ?_⟩
    · cases q.style <;> decide
    · cases q.style <;> decide
  have hfits : Fits q.style (before ++ after) := hcut ▸ q.fits
  have hbefore : ∀ piece ∈ before, piece.isToml10 = true := fun piece hmem =>
    hpieces piece (hcut ▸ List.mem_append_left after hmem)
  rw [valueOffset_text, Nat.add_sub_cancel, hcut, spell_append, List.append_assoc,
    byteLength_append _ (spell before), Nat.add_left_cancel_iff]
  exact walk_eq_iff hquote hfits hbefore

/-- A text that the reader takes as a string is a written string, and however it is cut into pieces,
these stand for what was read.  For pieces of TOML 1.0, the offset of a column is the place of the
character there, or of the closing quotes, exactly if no joint stands right before that place and
none before it is followed by a blank.  Strings without joints have no such places. -/
theorem valueOffset_eq_pieceOffset_iff {raw v : List Char} (hread : Reads raw v) :
    (∃ q : Quoted, q.text = raw) ∧
      ∀ q : Quoted, q.text = raw → q.value = v ∧
        ((∀ piece ∈ q.pieces, piece.isToml10 = true) →
          ∀ column, 1 ≤ column → column ≤ v.length + 1 →
            (∃ after, q.pieces = piecesBefore (column - 1) q.pieces ++ after ∧
              after.head?.map Piece.char? = v[column - 1]?.map some) ∧
            (valueOffset raw column = pieceOffset q column ↔
              Clear (piecesBefore (column - 1) q.pieces)) ∧
            (q.style ≠ .longBasic → valueOffset raw column = pieceOffset q column)) := by
  obtain ⟨q, hq, -⟩ := reads_iff.1 hread
  refine ⟨⟨q, hq⟩, ?_⟩
  rintro q rfl
  obtain rfl : q.value = v := reads_unique (reads_iff.2 ⟨q, rfl, rfl⟩) hread
  refine ⟨rfl, fun hpieces column hpos hle => ?_⟩
  obtain ⟨after, happend, hlength, hhead⟩ := exists_after q.pieces (Nat.sub_le_of_le_add hle)
  have hiff := valueOffset_cut q hpieces happend
  rw [hlength, Nat.sub_add_cancel hpos] at hiff
  refine ⟨⟨after, happend, hhead⟩, hiff, fun hstyle => hiff.2 ?_⟩
  exact clear_of_ne_longBasic hstyle (happend ▸ q.fits)

/-- A string over three lines, with a joint before its third character. -/
def joinedText : Quoted where
  style := .longBasic
  leading := ['\n']
  pieces := [.plain 'é', .code 'u' ['0', '0', '4', '1'], .joint ['\n', ' ', ' '], .plain '#',
    .plain 'B']
  leading_mem := by decide
  leading_ne_nil := by decide
  fits := by decide

/-- The character after the one behind the joint is found. -/
theorem valueOffset_eq_pieceOffset_iff_joined :
    Reads joinedText.text ['é', 'A', '#', 'B'] ∧ valueOffset joinedText.text 4 = 17 := by
  have hread : Reads joinedText.text ['é', 'A', '#', 'B'] :=
    ⟨.longBasic, joinedText.body, rfl, by decide⟩
  obtain ⟨-, hall⟩ := valueOffset_eq_pieceOffset_iff hread
  obtain ⟨-, hcolumns⟩ := hall joinedText rfl
  obtain ⟨-, hiff, -⟩ := hcolumns (by decide) 4 (by decide) (by decide)
  exact ⟨hread, hiff.2 (by decide)⟩

/-- The character behind the joint is reported at the backslash. -/
theorem valueOffset_behind_joint :
    valueOffset joinedText.text 3 = 12 ∧ pieceOffset joinedText 3 = 16 := by
  decide

-- a no-break space behind a joint is not counted: the third character is found for the second
example :
    valueOffset ['\x22', '\x22', '\x22', '\\', '\n', '\u00a0', '#', 'A', '\x22', '\x22', '\x22'] 2 =
      8 := by
  decide

end Blueprint.Document
