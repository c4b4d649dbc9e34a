import Blueprint.Proofs.DottedName
import Mathlib.Data.List.TakeWhile

/-!
# Texts and their tokens

The tokens of a text are found from left to right, a name always as long as possible.  This file
says that every name found is a dotted identifier (`isDotted_of_mem_tokensFrom`), and how the tokens
of a text follow from the tokens of its parts.

`Spells text ts` forgets the columns: from wherever the text starts, its tokens are `ts`.  The
statement quantifies over the start because a part of a text starts anywhere.  There is one lemma
for each way a text can begin.  The only part that looks ahead is a name, which must not be followed
by a further character of names (`EndsName`).
-/

namespace Blueprint.TypeExpr

open Blueprint.Text
open Blueprint.DottedName (IsDotted)

/-! ## Classes of characters

Blanks, the characters of names and the characters that are tokens by themselves exclude each
other, so a text is never cut in two ways. -/

/-- The code points of the blanks. -/
def blankCodes : List Nat :=
  [0x09, 0x0A, 0x0B, 0x0C, 0x0D, 0x20, 0x85, 0xA0, 0x1680, 0x2000, 0x2001, 0x2002, 0x2003, 0x2004,
   0x2005, 0x2006, 0x2007, 0x2008, 0x2009, 0x200A, 0x2028, 0x2029, 0x202F, 0x205F, 0x3000]

lemma toNat_mem_blankCodes {c : Char} (h : isBlank c = true) : c.toNat ∈ blankCodes := by
  simp only [isBlank, Bool.or_eq_true, Bool.and_eq_true, decide_eq_true_eq, beq_iff_eq] at h
  simp only [blankCodes, List.mem_cons, List.not_mem_nil, or_false]
  omega

lemma isBlank_eq_false {c : Char} (h : isNameChar c = true) : isBlank c = false := by
  have hblanks : ∀ n ∈ blankCodes, isNameChar (Char.ofNat n) = false := by decide +kernel
  by_contra hblank
  have hc := hblanks c.toNat (toNat_mem_blankCodes (by simpa using hblank))
  rw [Char.ofNat_toNat, h] at hc
  cases hc

/-- No token of one character, and not `=`, begins with a character of names. -/
lemma ofChar?_eq_none {c : Char} (h : isNameChar c = true) : Token.ofChar? c = none ∧ c ≠ '=' := by
  have hmarks : ['[', ']', '(', ')', ',', '='].all (fun d => !isNameChar d) = true := by decide
  have hne : ∀ d ∈ ['[', ']', '(', ')', ',', '='], c ≠ d := by
    rintro d hd rfl
    have hmark := List.all_eq_true.1 hmarks c hd
    rw [h] at hmark
    cases hmark
  refine ⟨?_, hne '=' (by simp)⟩
  unfold Token.ofChar?
  split
  · exact absurd rfl (hne _ (by simp))
  · exact absurd rfl (hne _ (by simp))
  · exact absurd rfl (hne _ (by simp))
  · exact absurd rfl (hne _ (by simp))
  · exact absurd rfl (hne _ (by simp))
  · rfl

/-! ## Name tokens -/

lemma isDotted_takeWhile {text : List Char}
    (h : ¬ hasStrayDot (text.takeWhile isNameChar) = true) :
    IsDotted (String.ofList (text.takeWhile isNameChar)) := by
  refine ⟨?_, ?_⟩
  · intro c hc
    rw [String.toList_ofList] at hc
    exact List.mem_takeWhile_imp hc
  · rw [String.toList_ofList]
    simpa using h

lemma map_cons_eq_ok {α ε : Type} {x : α} {r : Except ε (List α)} {ys : List α}
    (h : r.map (x :: ·) = .ok ys) : ∃ xs, r = .ok xs ∧ ys = x :: xs := by
  cases r with
  | error e => cases h
  | ok xs =>
    cases h
    exact ⟨xs, rfl, rfl⟩

/-- Every name among the tokens of a text is a dotted identifier. -/
lemma isDotted_of_mem_tokensFrom {column skip : Nat} {text : List Char} {lexemes : List Lexeme}
    (h : tokensFrom column skip text = .ok lexemes) {name : String}
    (hname : Token.name name ∈ lexemes.map Lexeme.token) : IsDotted name := by
  fun_induction tokensFrom column skip text generalizing lexemes with
  | case1 =>
    cases h
    simp at hname
  | case2 column skip c rest ih => exact ih h hname
  | case3 column c rest hblank ih => exact ih h hname
  | case4 column c rest hblank token htoken ih =>
    obtain ⟨others, hothers, rfl⟩ := map_cons_eq_ok h
    rw [List.map_cons, List.mem_cons] at hname
    rcases hname with rfl | hname
    · unfold Token.ofChar? at htoken
      split at htoken <;> cases htoken
    · exact ih hothers hname
  | case5 column c rest hblank hmark harrow ih =>
    obtain ⟨others, hothers, rfl⟩ := map_cons_eq_ok h
    rw [List.map_cons, List.mem_cons] at hname
    rcases hname with hname | hname
    · cases hname
    · exact ih hothers hname
  | case6 => cases h
  | case7 column c rest hblank hmark harrow hc found hstray =>
    rename_i ih
    obtain ⟨others, hothers, rfl⟩ := map_cons_eq_ok h
    rw [List.map_cons, List.mem_cons] at hname
    rcases hname with hname | hname
    · cases hname
      exact isDotted_takeWhile hstray
    · exact ih hothers hname
  | case8 => cases h

/-! ## One step of the scan -/

/-- No character of names comes next, so a name in front ends here. -/
def EndsName (rest : List Char) : Prop :=
  ∀ c ∈ rest.head?, isNameChar c = false

lemma endsName_nil : EndsName [] := by
  simp [EndsName]

lemma endsName_cons {c : Char} (h : isNameChar c = false) (rest : List Char) :
    EndsName (c :: rest) := by
  simpa [EndsName] using h

lemma tokensFrom_skip (column : Nat) (front rest : List Char) :
    tokensFrom column front.length (front ++ rest) = tokensFrom (column + front.length) 0 rest := by
  induction front generalizing column with
  | nil => rfl
  | cons c front ih =>
    rw [List.length_cons, List.cons_append, tokensFrom, ih]
    congr 1
    omega

section Scan

variable (column : Nat) {c : Char} {rest : List Char}

lemma tokensFrom_blank (hc : isBlank c = true) :
    tokensFrom column 0 (c :: rest) = tokensFrom (column + 1) 0 rest := by
  rw [tokensFrom, if_pos hc]

/-- A character that is a token by itself. -/
lemma tokensFrom_mark {token : Token} (hc : Token.ofChar? c = some token)
    (hblank : isBlank c = false) :
    tokensFrom column 0 (c :: rest) =
      (tokensFrom (column + 1) 0 rest).map (⟨token, column⟩ :: ·) := by
  rw [tokensFrom, if_neg (by simp [hblank])]
  simp only [hc]

lemma tokensFrom_arrow :
    tokensFrom column 0 ('=' :: '>' :: rest) =
      (tokensFrom (column + 2) 0 rest).map (⟨.arrow, column⟩ :: ·) := by
  have hblank : isBlank '=' = false := by decide
  have hmark : Token.ofChar? '=' = none := rfl
  rw [tokensFrom, if_neg (by simp [hblank])]
  simp [hmark, tokensFrom]

/-- A name is read to its end; it is a token, or a fault at its first character. -/
lemma tokensFrom_name {name : List Char} (hne : name ≠ []) (hname : ∀ c ∈ name, isNameChar c = true)
    (hrest : EndsName rest) :
    tokensFrom column 0 (name ++ rest) =
      if hasStrayDot name then .error ⟨.malformedName (String.ofList name), column⟩
      else (tokensFrom (column + name.length) 0 rest).map
        (⟨.name (String.ofList name), column⟩ :: ·) := by
  have htake := takeWhile_append_of_head hname hrest
  cases name with
  | nil => exact absurd rfl hne
  | cons c tail =>
    have hc : isNameChar c = true := hname c List.mem_cons_self
    obtain ⟨hmark, hequals⟩ := ofChar?_eq_none hc
    have hskip := tokensFrom_skip (column + 1) tail rest
    rw [List.cons_append] at htake
    rw [List.cons_append, tokensFrom, if_neg (by simp [isBlank_eq_false hc])]
    simp [hmark, hequals, hc, htake, hskip, Nat.add_comm, Nat.add_left_comm]

end Scan

/-! ## Tokens of composed texts -/

/-- The text has these tokens, wherever it starts. -/
def Spells (text : List Char) (ts : List Token) : Prop :=
  ∀ column, ∃ lexemes, tokensFrom column 0 text = .ok lexemes ∧ lexemes.map Lexeme.token = ts

lemma spells_nil : Spells [] [] :=
  fun _ => ⟨[], rfl, rfl⟩

section Steps

variable {rest : List Char} {ts : List Token}

lemma spells_space (h : Spells rest ts) : Spells (' ' :: rest) ts := by
  intro column
  rw [tokensFrom_blank column (by decide)]
  exact h (column + 1)

/-- A token in front of a text, wherever the text goes on. -/
lemma spells_cons {token : Token} (front : List Char) (width : Nat)
    (hfront : ∀ column, tokensFrom column 0 (front ++ rest) =
      (tokensFrom (column + width) 0 rest).map (⟨token, column⟩ :: ·))
    (h : Spells rest ts) : Spells (front ++ rest) (token :: ts) := by
  intro column
  obtain ⟨lexemes, htokens, hmap⟩ := h (column + width)
  refine ⟨⟨token, column⟩ :: lexemes, ?_, by simp [hmap]⟩
  rw [hfront, htokens]
  rfl

/-- A character that is a token by itself. -/
lemma spells_mark {c : Char} {token : Token} (hc : Token.ofChar? c = some token)
    (hblank : isBlank c = false) (h : Spells rest ts) : Spells (c :: rest) (token :: ts) :=
  spells_cons [c] 1 (fun column => tokensFrom_mark column hc hblank) h

lemma spells_arrow (h : Spells rest ts) : Spells ('=' :: '>' :: rest) (.arrow :: ts) :=
  spells_cons ['=', '>'] 2 (fun column => tokensFrom_arrow column) h

/-- A name is one token, read to its end. -/
lemma spells_name {name : String} (hname : IsDotted name) (hrest : EndsName rest)
    (h : Spells rest ts) : Spells (name.toList ++ rest) (.name name :: ts) := by
  have hne : name.toList ≠ [] := fun hnil => hname.ne_empty (String.toList_eq_nil_iff.1 hnil)
  refine spells_cons name.toList name.toList.length (fun column => ?_) h
  rw [tokensFrom_name column hne hname.isNameChar_of_mem hrest, hname.hasStrayDot_eq_false,
    String.ofList_toList]
  rfl

end Steps

end Blueprint.TypeExpr
