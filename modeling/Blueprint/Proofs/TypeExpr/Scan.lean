import Blueprint.Proofs.TypeExpr.Token
import Mathlib.Data.List.TakeWhile

/-!
# Scanning texts for tokens

A scan of a text passes one blank or one token after the other (`Passes`), or breaks where neither
stands (`Breaks`).  `tokensFrom` is such a scan (`tokensFrom_of_passes`, `tokensFrom_of_breaks`),
and what it does to a text follows by induction on what is passed first (`scan_induction`).

So a token is written in the text from its column on (`exists_spelling_of_mem`), and the fault of a
text that does not split into tokens is reported at the first place where the scan breaks
(`exists_breaks_of_error`).
-/

namespace Blueprint.TypeExpr

open Blueprint.Text

/-- What a scan passes at once, a blank or a token, with the text that follows it. -/
inductive Passes : List Char → Option Token → List Char → Prop
  | blank {c : Char} {rest : List Char} (hc : isBlank c = true) : Passes [c] none rest
  | mark {c : Char} {token : Token} {rest : List Char} (hc : Token.ofChar? c = some token)
      (hblank : isBlank c = false) : Passes [c] (some token) rest
  | arrow {rest : List Char} : Passes ['=', '>'] (some .arrow) rest
  | name {name rest : List Char} (hne : name ≠ []) (hname : ∀ c ∈ name, isNameChar c = true)
      (hdots : hasStrayDot name = false) (hrest : EndsName rest) :
      Passes name (some (.name (String.ofList name))) rest

/-- Nothing that a scan can pass stands at the start of the text. -/
inductive Breaks : List Char → Cause → Prop
  | char {c : Char} {rest : List Char} (hblank : isBlank c = false)
      (hmark : Token.ofChar? c = none) (harrow : ¬ (c = '=' ∧ rest.head? = some '>'))
      (hname : isNameChar c = false) : Breaks (c :: rest) (.unexpectedChar c)
  | name {name rest : List Char} (hne : name ≠ []) (hname : ∀ c ∈ name, isNameChar c = true)
      (hdots : hasStrayDot name = true) (hrest : EndsName rest) :
      Breaks (name ++ rest) (.malformedName (String.ofList name))

/-- The lexeme of a token at a column, if there is a token. -/
def lexemeAt (column : Nat) (token? : Option Token) : List Lexeme :=
  (token?.map (⟨·, column⟩)).toList

section Scan

variable {column : Nat} {piece rest text : List Char} {token? : Option Token}

lemma tokensFrom_of_passes (h : Passes piece token? rest) (column : Nat) :
    tokensFrom column 0 (piece ++ rest) =
      (tokensFrom (column + piece.length) 0 rest).map (lexemeAt column token? ++ ·) := by
  cases h with
  | blank hc =>
    rw [List.singleton_append, tokensFrom_blank column hc, List.length_singleton]
    cases tokensFrom (column + 1) 0 rest <;> rfl
  | mark hc hblank => exact tokensFrom_mark column hc hblank
  | arrow => exact tokensFrom_arrow column
  | name hne hname hdots hrest =>
    rw [tokensFrom_name column hne hname hrest, hdots]
    rfl

lemma tokensFrom_of_breaks {cause : Cause} (h : Breaks text cause) (column : Nat) :
    tokensFrom column 0 text = .error ⟨cause, column⟩ := by
  cases h with
  | char hblank hmark harrow hname =>
    rw [tokensFrom, if_neg (by simp [hblank])]
    simp only [hmark, if_neg harrow, hname]
    rfl
  | name hne hname hdots hrest =>
    rw [tokensFrom_name column hne hname hrest, hdots]
    rfl

lemma endsName_dropWhile (text : List Char) : EndsName (text.dropWhile isNameChar) := by
  intro c hc
  rw [← List.find?_not_eq_head?_dropWhile] at hc
  simpa using List.find?_some hc

/-- A scan goes on or breaks. -/
lemma passes_or_breaks (c : Char) (tail : List Char) :
    (∃ piece token? rest, c :: tail = piece ++ rest ∧ piece ≠ [] ∧ Passes piece token? rest) ∨
      ∃ cause, Breaks (c :: tail) cause := by
  by_cases hblank : isBlank c = true
  · exact .inl ⟨[c], none, tail, rfl, by simp, .blank hblank⟩
  rw [Bool.not_eq_true] at hblank
  cases hmark : Token.ofChar? c with
  | some token => exact .inl ⟨[c], some token, tail, rfl, by simp, .mark hmark hblank⟩
  | none =>
    by_cases harrow : c = '=' ∧ tail.head? = some '>'
    · obtain ⟨rfl, hhead⟩ := harrow
      obtain ⟨rest, rfl⟩ := List.head?_eq_some_iff.1 hhead
      exact .inl ⟨['=', '>'], some .arrow, rest, rfl, by simp, .arrow⟩
    by_cases hc : isNameChar c = true
    · -- the longest name that the text begins with
      have hsplit : c :: tail =
          (c :: tail).takeWhile isNameChar ++ (c :: tail).dropWhile isNameChar :=
        List.takeWhile_append_dropWhile.symm
      have hne : (c :: tail).takeWhile isNameChar ≠ [] := by
        rw [List.takeWhile_cons_of_pos hc]
        exact List.cons_ne_nil _ _
      have hname : ∀ d ∈ (c :: tail).takeWhile isNameChar, isNameChar d = true :=
        fun d hd => List.mem_takeWhile_imp hd
      have hrest := endsName_dropWhile (c :: tail)
      cases hdots : hasStrayDot ((c :: tail).takeWhile isNameChar) with
      | false => exact .inl ⟨_, _, _, hsplit, hne, .name hne hname hdots hrest⟩
      | true =>
        have hbreaks := Breaks.name hne hname hdots hrest
        rw [← hsplit] at hbreaks
        exact .inr ⟨_, hbreaks⟩
    · rw [Bool.not_eq_true] at hc
      exact .inr ⟨_, .char hblank hmark harrow hc⟩

/-- What holds of a text holds because of what a scan passes first. -/
lemma scan_induction {motive : List Char → Prop} (nil : motive [])
    (passes : ∀ piece token? rest, Passes piece token? rest → motive rest → motive (piece ++ rest))
    (breaks : ∀ text cause, Breaks text cause → motive text) (text : List Char) : motive text := by
  induction hlength : text.length using Nat.strong_induction_on generalizing text with
  | _ n ih =>
    cases text with
    | nil => exact nil
    | cons c tail =>
      rcases passes_or_breaks c tail with ⟨piece, token?, rest, htext, hne, h⟩ | ⟨cause, h⟩
      · have hshort : rest.length < n := by
          have hpos := List.length_pos_iff.2 hne
          rw [← hlength, htext, List.length_append]
          omega
        rw [htext]
        exact passes piece token? rest h (ih rest.length hshort rest rfl)
      · exact breaks _ cause h

lemma Passes.toList_spelling {token : Token} (h : Passes piece (some token) rest) :
    token.spelling.toList = piece ∧ piece ≠ [] := by
  cases h with
  | mark hc =>
    refine ⟨?_, by simp⟩
    unfold Token.ofChar? at hc
    split at hc <;> cases hc <;> rfl
  | arrow => exact ⟨rfl, by simp⟩
  | name hne => exact ⟨String.toList_ofList, hne⟩

/-- What was passed is a name, up to its end, or has no character of names in it. -/
lemma Passes.name_or (h : Passes piece token? rest) :
    ((∀ c ∈ piece, isNameChar c = true) ∧ hasStrayDot piece = false ∧ EndsName rest) ∨
      ∀ c ∈ piece, isNameChar c = false := by
  cases h with
  | blank hc =>
    right
    intro c hmem
    obtain rfl := List.mem_singleton.1 hmem
    by_contra hname
    rw [isBlank_eq_false (by simpa using hname)] at hc
    cases hc
  | mark hc =>
    right
    intro c hmem
    obtain rfl := List.mem_singleton.1 hmem
    by_contra hname
    rw [(ofChar?_eq_none (by simpa using hname)).1] at hc
    cases hc
  | arrow =>
    exact .inr (List.forall_mem_cons.2 ⟨by decide, List.forall_mem_singleton.2 (by decide)⟩)
  | name _ hname hdots hrest => exact .inl ⟨hname, hdots, hrest⟩

/-- The character after what was passed cannot belong to it. -/
lemma Passes.endsName_or (h : Passes piece token? rest) :
    EndsName rest ∨ ∀ c ∈ piece.getLast?, isNameChar c = false := by
  rcases h.name_or with ⟨-, -, hrest⟩ | hother
  · exact .inl hrest
  · exact .inr fun c hc => hother c (List.mem_of_getLast? hc)

/-- What was passed is passed as well if the text ends earlier. -/
lemma Passes.shorten {front : List Char} (h : Passes piece token? rest) (hfront : front <+: rest) :
    Passes piece token? front := by
  cases h with
  | blank hc => exact .blank hc
  | mark hc hblank => exact .mark hc hblank
  | arrow => exact .arrow
  | name hne hname hdots hrest =>
    refine .name hne hname hdots ?_
    obtain ⟨after, rfl⟩ := hfront
    cases front with
    | nil => exact endsName_nil
    | cons c front => exact hrest

lemma append_eq_ok {lexemes : List Lexeme} {front : List Lexeme}
    {r : Except Fault (List Lexeme)} (h : r.map (front ++ ·) = .ok lexemes) :
    ∃ others, r = .ok others ∧ lexemes = front ++ others := by
  cases r with
  | error e => cases h
  | ok others =>
    cases h
    exact ⟨others, rfl, rfl⟩

/-- A token of a text is written in the text, from its column on. -/
lemma exists_spelling_of_mem {lexemes : List Lexeme} (h : tokensFrom column 0 text = .ok lexemes)
    {l : Lexeme} (hl : l ∈ lexemes) :
    ∃ front after, text = front ++ (l.token.spelling.toList ++ after) ∧
      l.column = column + front.length ∧ l.token.spelling.toList ≠ [] := by
  induction text using scan_induction generalizing column lexemes with
  | nil =>
    cases h
    cases hl
  | passes piece token? rest hpasses ih =>
    rw [tokensFrom_of_passes hpasses] at h
    obtain ⟨others, hothers, rfl⟩ := append_eq_ok h
    rcases List.mem_append.1 hl with hl | hl
    · cases token? with
      | none => cases hl
      | some token =>
        obtain rfl := List.mem_singleton.1 hl
        obtain ⟨hspelling, hne⟩ := hpasses.toList_spelling
        exact ⟨[], rest, by rw [hspelling]; rfl, rfl, by rwa [hspelling]⟩
    · obtain ⟨front, after, rfl, hcolumn, hne⟩ := ih hothers hl
      refine ⟨piece ++ front, after, by rw [List.append_assoc], ?_, hne⟩
      rw [hcolumn, List.length_append, Nat.add_assoc]
  | breaks text cause hbreaks =>
    rw [tokensFrom_of_breaks hbreaks] at h
    cases h

/-- A fault of a scan is reported where the scan breaks. -/
lemma exists_breaks_of_error {e : Fault} (h : tokensFrom column 0 text = .error e) :
    ∃ front rest, text = front ++ rest ∧ Breaks rest e.cause ∧ e.column = column + front.length ∧
      (EndsName rest ∨ ∀ c ∈ front.getLast?, isNameChar c = false) ∧
      ∃ lexemes, tokensFrom column 0 front = .ok lexemes := by
  induction text using scan_induction generalizing column with
  | nil => cases h
  | passes piece token? rest hpasses ih =>
    rw [tokensFrom_of_passes hpasses] at h
    cases hrest : tokensFrom (column + piece.length) 0 rest with
    | ok others =>
      rw [hrest] at h
      cases h
    | error fault =>
      rw [hrest] at h
      cases h
      obtain ⟨front, after, rfl, hbreaks, hcolumn, hends, lexemes, hlexemes⟩ := ih hrest
      refine ⟨piece ++ front, after, by rw [List.append_assoc], hbreaks, ?_, ?_, ?_⟩
      · rw [hcolumn, List.length_append, Nat.add_assoc]
      · cases front with
        | nil => simpa using hpasses.endsName_or
        | cons c front => simpa using hends
      · have hfront := hpasses.shorten (List.prefix_append front after)
        refine ⟨lexemeAt column token? ++ lexemes, ?_⟩
        rw [tokensFrom_of_passes hfront, hlexemes]
        rfl
  | breaks text cause hbreaks =>
    rw [tokensFrom_of_breaks hbreaks] at h
    cases h
    exact ⟨[], text, rfl, hbreaks, rfl, .inr (by simp), [], rfl⟩

end Scan

end Blueprint.TypeExpr
