import Blueprint.Proofs.TypeExpr.FaultColumn
import Mathlib.Data.List.Infix

/-!
# Tokens lose nothing of a text

A text that splits into tokens can be put together again from them: each token is written at its
column, no two share a character, and what lies between them is blank.  A text does not split
exactly if a name in it has a stray dot, or a character in it belongs to nothing that a text is
written with.

Both are read off one description of a scan that never breaks (`Scans`): the text is a row of
pieces, each of them a blank or a token.  Every fact about all tokens is an induction over that row,
and the facts about one piece are lemmas about `Passes`.

The main statement is `tokenize_lossless`.  What is wrong with a text is said there without the
scan, by the runs of characters of names that a text has (`LongestRun`) and by the neighbours of
its characters (`Known`).
-/

namespace Blueprint.TypeExpr

open Blueprint.Text

/-! ## Stray dots -/

/-- A dot stands first, last or beside another one. -/
inductive StrayDot : List Char → Prop
  | first (rest : List Char) : StrayDot ('.' :: rest)
  | last (front : List Char) : StrayDot (front ++ ['.'])
  | pair (front rest : List Char) : StrayDot (front ++ '.' :: '.' :: rest)

lemma StrayDot.behind_dot {rest : List Char} (h : StrayDot rest) (front : List Char) :
    StrayDot (front ++ '.' :: rest) := by
  cases h with
  | first rest => exact .pair front rest
  | last middle => simpa using StrayDot.last (front ++ '.' :: middle)
  | pair middle rest => simpa using StrayDot.pair (front ++ '.' :: middle) rest

lemma strayDot_of_hasStrayDot {name : List Char} (h : hasStrayDot name = true) (hne : name ≠ []) :
    StrayDot name := by
  induction hlength : name.length using Nat.strong_induction_on generalizing name with
  | _ n ih =>
    by_cases hdot : '.' ∈ name
    · -- the cut at the first dot: a segment without dots, and a shorter name
      obtain ⟨segment, rest, rfl, hsegment⟩ := List.eq_append_cons_of_mem hdot
      by_cases hfirst : segment = []
      · rw [hfirst]
        exact .first rest
      have hclean : hasStrayDot segment = false := by
        simp [hasStrayDot, splitOn_eq_list_splitOn, List.splitOn_eq_singleton hsegment, hfirst]
      rw [DottedName.hasStrayDot_append_cons, hclean, Bool.false_or] at h
      by_cases hlast : rest = []
      · rw [hlast]
        exact .last segment
      have hshort : rest.length < n := by
        rw [← hlength, List.length_append, List.length_cons]
        omega
      exact (ih rest.length hshort h hlast rfl).behind_dot segment
    · simp [hasStrayDot, splitOn_eq_list_splitOn, List.splitOn_eq_singleton hdot, hne] at h

lemma hasStrayDot_of_strayDot {name : List Char} (h : StrayDot name) : hasStrayDot name = true := by
  have hempty : hasStrayDot [] = true := rfl
  have hfirst : ∀ rest, hasStrayDot ('.' :: rest) = true := fun rest => by
    rw [← List.nil_append ('.' :: rest), DottedName.hasStrayDot_append_cons, hempty, Bool.true_or]
  cases h with
  | first rest => exact hfirst rest
  | last front => rw [DottedName.hasStrayDot_append_cons, hempty, Bool.or_true]
  | pair front rest => rw [DottedName.hasStrayDot_append_cons, hfirst, Bool.or_true]

/-! ## Scans that do not break -/

/-- A scan of a text that starts at a column passes one piece after the other and finds these
tokens. -/
inductive Scans : Nat → List Char → List Lexeme → Prop
  | done (column : Nat) : Scans column [] []
  | passes {column : Nat} {piece rest : List Char} {token? : Option Token} {lexemes : List Lexeme}
      (h : Passes piece token? rest) (hrest : Scans (column + piece.length) rest lexemes) :
      Scans column (piece ++ rest) (lexemeAt column token? ++ lexemes)

/-- The column behind the last character of a token. -/
def Lexeme.stop (l : Lexeme) : Nat :=
  l.column + l.token.spelling.toList.length

/-- The character at a column is one of the token's. -/
def Lexeme.Covers (l : Lexeme) (column : Nat) : Prop :=
  l.column ≤ column ∧ column < l.stop

section Piece

variable {piece rest : List Char} {token? : Option Token}

lemma Passes.stop_eq {token : Token} (h : Passes piece (some token) rest) (column : Nat) :
    Lexeme.stop ⟨token, column⟩ = column + piece.length := by
  rw [Lexeme.stop, h.toList_spelling.1]

/-- What was passed is blank throughout if it is no token, and nowhere if it is one. -/
lemma Passes.isBlank_eq (h : Passes piece token? rest) :
    ∀ c ∈ piece, isBlank c = token?.isNone := by
  cases h with
  | blank hc => simpa using hc
  | mark _ hblank => simpa using hblank
  | arrow => exact List.forall_mem_cons.2 ⟨by decide, List.forall_mem_singleton.2 (by decide)⟩
  | name _ hname => exact fun c hc => isBlank_eq_false (hname c hc)

/-- A name goes on to its end, and begins with a character of names. -/
lemma Passes.endsName_of_name {name : String} (h : Passes piece (some (.name name)) rest) :
    EndsName rest ∧ ¬ EndsName (piece ++ rest) := by
  cases h with
  | mark hc =>
    unfold Token.ofChar? at hc
    split at hc <;> cases hc
  | name hne hname _ hrest =>
    refine ⟨hrest, fun hends => ?_⟩
    obtain ⟨c, tail, rfl⟩ := List.exists_cons_of_ne_nil hne
    have hc := hends c rfl
    rw [hname c List.mem_cons_self] at hc
    cases hc

end Piece

section Scans

variable {column : Nat} {text : List Char} {lexemes : List Lexeme}

lemma tokensFrom_eq_ok_iff :
    tokensFrom column 0 text = .ok lexemes ↔ Scans column text lexemes := by
  constructor
  · intro h
    induction text using scan_induction generalizing column lexemes with
    | nil =>
      cases h
      exact .done column
    | passes piece token? rest hpasses ih =>
      rw [tokensFrom_of_passes hpasses] at h
      obtain ⟨others, hothers, rfl⟩ := append_eq_ok h
      exact .passes hpasses (ih hothers)
    | breaks text cause hbreaks =>
      rw [tokensFrom_of_breaks hbreaks] at h
      cases h
  · intro h
    induction h with
    | done column => rfl
    | passes hpasses hrest ih =>
      rw [tokensFrom_of_passes hpasses, ih]
      rfl

/-- The tokens lie inside of the text. -/
lemma Scans.bounds (h : Scans column text lexemes) {l : Lexeme} (hl : l ∈ lexemes) :
    column ≤ l.column ∧ l.column < l.stop ∧ l.stop ≤ column + text.length := by
  obtain ⟨front, after, htext, hcolumn, hne⟩ := exists_spelling_of_mem (tokensFrom_eq_ok_iff.2 h) hl
  have hpos := List.length_pos_iff.2 hne
  have hlength := congrArg List.length htext
  simp only [List.length_append] at hlength
  rw [Lexeme.stop]
  omega

/-- A token ends before the next begins. -/
lemma Scans.pairwise (h : Scans column text lexemes) :
    lexemes.Pairwise fun l r => l.stop ≤ r.column := by
  induction h with
  | done column => exact .nil
  | @passes column piece rest token? lexemes hpasses hrest ih =>
    cases token? with
    | none => exact ih
    | some token =>
      refine .cons (fun r hr => ?_) ih
      rw [hpasses.stop_eq]
      exact (hrest.bounds hr).1

/-- A character is outside of all tokens exactly if it is blank. -/
lemma Scans.isBlank_iff (h : Scans column text lexemes) {i : Nat} {c : Char}
    (hc : text[i]? = some c) :
    isBlank c = true ↔ ∀ l ∈ lexemes, ¬ l.Covers (column + i) := by
  induction h generalizing i with
  | done column => cases hc
  | @passes column piece rest token? lexemes hpasses hrest ih =>
    by_cases hi : i < piece.length
    · -- the character is one of the piece, which no later token reaches back to
      have hmem : c ∈ piece := by
        rw [List.getElem?_append_left hi] at hc
        exact List.mem_of_getElem? hc
      have hlater : ∀ l ∈ lexemes, ¬ l.Covers (column + i) := by
        intro l hl hcovers
        have hle := (hrest.bounds hl).1
        have hge := hcovers.1
        omega
      rw [hpasses.isBlank_eq c hmem]
      cases token? with
      | none => exact iff_of_true rfl hlater
      | some token =>
        refine iff_of_false Bool.false_ne_true fun hfree => ?_
        apply hfree ⟨token, column⟩ List.mem_cons_self
        refine ⟨Nat.le_add_right column i, ?_⟩
        rw [hpasses.stop_eq]
        omega
    · have hshift : column + i = column + piece.length + (i - piece.length) := by omega
      rw [List.getElem?_append_right (by omega)] at hc
      rw [ih hc, ← hshift]
      cases token? with
      | none => exact Iff.rfl
      | some token =>
        have hbefore : ¬ Lexeme.Covers ⟨token, column⟩ (column + i) := by
          intro hcovers
          have hlt := hcovers.2
          rw [hpasses.stop_eq] at hlt
          omega
        rw [lexemeAt, Option.map_some, Option.toList_some, List.singleton_append,
          List.forall_mem_cons, and_iff_right hbefore]

/-- If a name is the first token of a text that does not begin with it, a blank comes before it. -/
lemma Scans.exists_blank (h : Scans column text lexemes) {l : Lexeme}
    (hl : lexemes.head? = some l) {name : String} (hname : l.token = .name name)
    (hends : EndsName text) :
    ∃ c, text[0]? = some c ∧ isBlank c = true ∧ column < l.column := by
  cases h with
  | done => cases hl
  | @passes _ piece rest token? lexemes hpasses hrest =>
    cases token? with
    | some token =>
      cases hl
      obtain rfl : token = .name name := hname
      exact absurd hends hpasses.endsName_of_name.2
    | none =>
      have hmem : l ∈ lexemes := List.mem_of_mem_head? hl
      cases hpasses with
      | @blank c _ hc =>
        have hle := (hrest.bounds hmem).1
        rw [List.length_singleton] at hle
        exact ⟨c, rfl, hc, by omega⟩

/-- Between two names that follow each other there is a blank. -/
lemma Scans.exists_blank_between (h : Scans column text lexemes) {l r : Lexeme}
    (hpair : [l, r] <:+: lexemes) {first second : String} (hl : l.token = .name first)
    (hr : r.token = .name second) :
    ∃ i c, text[i]? = some c ∧ isBlank c = true ∧ l.stop ≤ column + i ∧ column + i < r.column := by
  induction h with
  | done column => simp at hpair
  | @passes column piece rest token? lexemes hpasses hrest ih =>
    have hlater : [l, r] <:+: lexemes → ∃ i c, (piece ++ rest)[i]? = some c ∧ isBlank c = true ∧
        l.stop ≤ column + i ∧ column + i < r.column := by
      intro hpair
      obtain ⟨i, c, hc, hblank, hstop, hbefore⟩ := ih hpair
      refine ⟨piece.length + i, c, ?_, hblank, by omega, by omega⟩
      rw [List.getElem?_append_right (by omega), Nat.add_sub_cancel_left]
      exact hc
    cases token? with
    | none => exact hlater hpair
    | some token =>
      rcases List.infix_cons_iff.1 hpair with hfirst | hinside
      · -- the first of the two is what was just passed
        obtain ⟨rfl, htail⟩ := List.cons_prefix_cons.1 hfirst
        obtain rfl : token = .name first := hl
        have hhead : lexemes.head? = some r := by
          obtain ⟨after, rfl⟩ := htail
          rfl
        obtain ⟨c, hc, hblank, hbefore⟩ :=
          hrest.exists_blank hhead hr hpasses.endsName_of_name.1
        refine ⟨piece.length, c, ?_, hblank, (hpasses.stop_eq column).le, hbefore⟩
        rw [List.getElem?_append_right (Nat.le_refl _), Nat.sub_self]
        exact hc
      · exact hlater hinside

end Scans

/-! ## Texts that do not split -/

/-- A run of characters of names in a text that can be made longer on neither side. -/
def LongestRun (text run : List Char) : Prop :=
  run ≠ [] ∧ (∀ c ∈ run, isNameChar c = true) ∧
    ∃ front after, text = front ++ (run ++ after) ∧
      (∀ c ∈ front.getLast?, isNameChar c = false) ∧ EndsName after

/-- A character between two texts is one that type expressions are written with: a blank, a bracket,
a parenthesis, a comma, a character of names, or one of the two of an arrow. -/
inductive Known : List Char → Char → List Char → Prop
  | blank {front after : List Char} {c : Char} (hc : isBlank c = true) : Known front c after
  | mark {front after : List Char} {c : Char} (hc : c ∈ ['[', ']', '(', ')', ',']) :
      Known front c after
  | name {front after : List Char} {c : Char} (hc : isNameChar c = true) : Known front c after
  | shaft (front after : List Char) : Known front '=' ('>' :: after)
  | head (front after : List Char) : Known (front ++ ['=']) '>' after

lemma ofChar?_isSome_iff {c : Char} :
    (Token.ofChar? c).isSome = true ↔ c ∈ ['[', ']', '(', ')', ','] := by
  unfold Token.ofChar?
  split
  · simp
  · simp
  · simp
  · simp
  · simp
  · simp_all

lemma Known.behind {front after : List Char} {c : Char} (h : Known front c after)
    (piece : List Char) : Known (piece ++ front) c after := by
  cases h with
  | blank hc => exact .blank hc
  | mark hc => exact .mark hc
  | name hc => exact .name hc
  | shaft front after => exact .shaft (piece ++ front) after
  | head front after =>
    rw [← List.append_assoc]
    exact .head (piece ++ front) after

section Piece

variable {piece rest : List Char} {token? : Option Token}

lemma Passes.known (h : Passes piece token? rest) {front after : List Char} {c : Char}
    (hpiece : piece = front ++ c :: after) : Known front c (after ++ rest) := by
  have hmem : c ∈ piece := by simp [hpiece]
  cases h with
  | blank hc =>
    obtain rfl := List.mem_singleton.1 hmem
    exact .blank hc
  | mark hc =>
    obtain rfl := List.mem_singleton.1 hmem
    exact .mark (ofChar?_isSome_iff.1 (Option.isSome_of_eq_some hc))
  | arrow =>
    rcases front with _ | ⟨d, _ | ⟨e, front⟩⟩
    · cases hpiece
      exact .shaft [] rest
    · cases hpiece
      exact .head [] rest
    · simp at hpiece
  | name _ hname => exact .name (hname c hmem)

/-- A longest run of characters of names is the piece that was passed first, or lies behind it. -/
lemma Passes.run_cases (h : Passes piece token? rest) {front run after : List Char}
    (htext : piece ++ rest = front ++ (run ++ after)) (hne : run ≠ [])
    (hrun : ∀ c ∈ run, isNameChar c = true) (hfront : ∀ c ∈ front.getLast?, isNameChar c = false)
    (hafter : EndsName after) :
    hasStrayDot run = false ∨
      ∃ between, front = piece ++ between ∧ rest = between ++ (run ++ after) := by
  rcases List.append_eq_append_iff.1 htext with ⟨between, hpiece, hrest⟩ | ⟨tail, hpiece, hrest⟩
  · exact .inr ⟨between, hpiece, hrest⟩
  cases tail with
  | nil => exact .inr ⟨[], by simpa using hpiece.symm, by simpa using hrest.symm⟩
  | cons d tail =>
    obtain ⟨e, others, rfl⟩ := List.exists_cons_of_ne_nil hne
    obtain ⟨rfl, -⟩ := List.cons.inj hrest
    have hd := hrun e List.mem_cons_self
    rcases h.name_or with ⟨hname, hdots, hends⟩ | hother
    · -- the run begins where the name does, and both are as long as they can be
      have hstart : front = [] := by
        cases hlast : front.getLast? with
        | none => exact List.getLast?_eq_none_iff.1 hlast
        | some c =>
          have hc := hfront c hlast
          rw [hname c (by simp [hpiece, List.mem_of_getLast? hlast])] at hc
          cases hc
      rw [hstart, List.nil_append] at htext
      have htake := congrArg (List.takeWhile isNameChar) htext
      rw [takeWhile_append_of_head hname hends, takeWhile_append_of_head hrun hafter] at htake
      exact .inl (htake ▸ hdots)
    · rw [hother e (by simp [hpiece])] at hd
      cases hd

end Piece

section Scans

variable {column : Nat} {text : List Char} {lexemes : List Lexeme}

lemma Scans.known (h : Scans column text lexemes) {front after : List Char} {c : Char}
    (htext : text = front ++ c :: after) : Known front c after := by
  induction h generalizing front with
  | done column => simp at htext
  | @passes column piece rest token? lexemes hpasses hrest ih =>
    rcases List.append_eq_append_iff.1 htext with ⟨between, rfl, hbehind⟩ | ⟨tail, hpiece, htail⟩
    · exact (ih hbehind).behind piece
    · cases tail with
      | nil =>
        rw [List.append_nil] at hpiece
        have hfirst : Known [] c after := ih htail.symm
        have hknown := hfirst.behind piece
        rwa [List.append_nil, hpiece] at hknown
      | cons d tail =>
        obtain ⟨rfl, rfl⟩ := List.cons.inj htail
        exact hpasses.known hpiece

lemma Scans.hasStrayDot_eq_false (h : Scans column text lexemes) {run : List Char}
    (hrun : LongestRun text run) : hasStrayDot run = false := by
  obtain ⟨hne, hname, front, after, htext, hfront, hafter⟩ := hrun
  induction h generalizing front with
  | done column => simp [hne] at htext
  | @passes column piece rest token? lexemes hpasses hrest ih =>
    rcases hpasses.run_cases htext hne hname hfront hafter with hdots | ⟨between, rfl, hbehind⟩
    · exact hdots
    · refine ih between hbehind fun c hc => hfront c ?_
      rw [Option.mem_def] at hc ⊢
      rw [List.getLast?_append, hc, Option.some_or]

end Scans

/-- An arrow needs its second character, so no scan ends behind `=`. -/
lemma not_scans_equals (before : List Char) {column : Nat} {lexemes : List Lexeme} :
    ¬ Scans column (before ++ ['=']) lexemes := by
  intro h
  cases h.known rfl with
  | blank hc => exact absurd hc (by decide)
  | mark hc => exact absurd hc (by decide)
  | name hc => exact absurd hc (by decide)

/-- A scan breaks at a name with a stray dot, or at a character that is not known. -/
lemma exists_of_tokenize_error {input : List Char} {e : Fault} (h : tokenize input = .error e) :
    (∃ run, LongestRun input run ∧ StrayDot run) ∨
      ∃ front c after, input = front ++ c :: after ∧ ¬ Known front c after := by
  obtain ⟨front, rest, hinput, -, hbreaks, hends, lexemes, hlexemes⟩ := breaksAt_of_tokenize h
  generalize e.cause = cause at hbreaks
  cases hbreaks with
  | @char c rest hblank hmark harrow hname =>
    refine .inr ⟨front, c, rest, hinput, fun hknown => ?_⟩
    cases hknown with
    | blank hc =>
      rw [hblank] at hc
      cases hc
    | mark hc =>
      rw [← ofChar?_isSome_iff, hmark] at hc
      cases hc
    | name hc =>
      rw [hname] at hc
      cases hc
    | shaft _ after => exact harrow ⟨rfl, rfl⟩
    | head before _ => exact not_scans_equals before (tokensFrom_eq_ok_iff.1 hlexemes)
  | @name run after hne hname hdots hafter =>
    refine .inl ⟨run, ⟨hne, hname, front, after, hinput, ?_, hafter⟩,
      strayDot_of_hasStrayDot hdots hne⟩
    apply hends.resolve_left
    intro hnone
    obtain ⟨c, tail, rfl⟩ := List.exists_cons_of_ne_nil hne
    have hc := hnone c rfl
    rw [hname c List.mem_cons_self] at hc
    cases hc

lemma tokenize_error_iff {input : List Char} :
    (∃ e, tokenize input = .error e) ↔
      (∃ run, LongestRun input run ∧ StrayDot run) ∨
        ∃ front c after, input = front ++ c :: after ∧ ¬ Known front c after := by
  refine ⟨fun ⟨e, he⟩ => exists_of_tokenize_error he, fun hwrong => ?_⟩
  cases htokens : tokenize input with
  | error e => exact ⟨e, rfl⟩
  | ok lexemes =>
    have hscans := tokensFrom_eq_ok_iff.1 htokens
    rcases hwrong with ⟨run, hrun, hdot⟩ | ⟨front, c, after, hinput, hunknown⟩
    · have hstray := hasStrayDot_of_strayDot hdot
      rw [hscans.hasStrayDot_eq_false hrun] at hstray
      cases hstray
    · exact absurd (hscans.known hinput) hunknown

/-! ## The tokens of a text and its end -/

/-- The tokens that a reader meets one after the other, and at last the end of the text, each with
its column. -/
def Context.meets (ctx : Context) (lexemes : List Lexeme) : List (Option Token × Nat) :=
  lexemes.tails.map fun rest => (next? rest, ctx.column rest)

lemma Context.meets_eq (ctx : Context) (lexemes : List Lexeme) :
    ctx.meets lexemes = lexemes.map (fun l => (some l.token, l.column)) ++ [(none, ctx.stop)] := by
  induction lexemes with
  | nil => rfl
  | cons l lexemes ih =>
    rw [Context.meets] at ih ⊢
    rw [List.tails_cons, List.map_cons, ih]
    rfl

/-- Tokens account for all of a text, up to its end. -/
structure Lossless (ctx : Context) (input : List Char) (lexemes : List Lexeme) : Prop where
  /-- Columns increase from one token to the next and to the end. -/
  increasing : ((ctx.meets lexemes).map Prod.snd).Pairwise (· < ·)
  /-- The end comes last, right behind the last character. -/
  ends : (ctx.meets lexemes).getLast? = some (none, input.length + 1)
  /-- The characters of a token are those of the text from its column on. -/
  stands : ∀ met ∈ ctx.meets lexemes, StandsAt input met.2 met.1
  /-- No character belongs to two tokens. -/
  disjoint : lexemes.Pairwise fun l r => l.stop ≤ r.column
  /-- The characters that belong to no token are the blanks. -/
  isBlank_iff : ∀ i c, input[i]? = some c →
    (isBlank c = true ↔ ∀ l ∈ lexemes, ¬ l.Covers (i + 1))
  /-- A blank stands between two names. -/
  apart : ∀ l r, [l, r] <:+: lexemes → ∀ first second, l.token = .name first →
    r.token = .name second →
      ∃ i c, input[i]? = some c ∧ isBlank c = true ∧ l.stop ≤ i + 1 ∧ i + 1 < r.column
  /-- A name has a character, and no dot first, last or beside another. -/
  names : ∀ l ∈ lexemes, ∀ name, l.token = .name name →
    name ≠ "" ∧ (∀ c ∈ name.toList, isNameChar c = true) ∧ ¬ StrayDot name.toList

section Text

variable {input : List Char} {lexemes : List Lexeme}

lemma pairwise_meets (scope : List String) (h : tokenize input = .ok lexemes) :
    (((Context.ofText scope input).meets lexemes).map Prod.snd).Pairwise (· < ·) := by
  have hscans := tokensFrom_eq_ok_iff.1 h
  rw [Context.meets_eq, List.map_append, List.map_map, List.pairwise_append]
  refine ⟨?_, List.pairwise_singleton _ _, ?_⟩
  · rw [List.pairwise_map]
    refine hscans.pairwise.imp_of_mem fun {l r} hl _ hle => ?_
    have hlt := (hscans.bounds hl).2.1
    show l.column < r.column
    omega
  · intro column hcolumn stop hstop
    obtain ⟨l, hl, rfl⟩ := List.mem_map.1 hcolumn
    obtain rfl := List.mem_singleton.1 hstop
    have hinside := column_le_length h hl
    show l.column < input.length + 1
    omega

lemma standsAt_of_meets (scope : List String) (h : tokenize input = .ok lexemes) :
    ∀ met ∈ (Context.ofText scope input).meets lexemes, StandsAt input met.2 met.1 := by
  intro met hmet
  rw [Context.meets_eq, List.mem_append, List.mem_singleton] at hmet
  rcases hmet with hmet | rfl
  · obtain ⟨l, hl, rfl⟩ := List.mem_map.1 hmet
    exact standsAt_of_mem h hl
  · exact rfl

lemma name_of_mem (h : tokenize input = .ok lexemes) {l : Lexeme} (hl : l ∈ lexemes) {name : String}
    (hname : l.token = .name name) :
    name ≠ "" ∧ (∀ c ∈ name.toList, isNameChar c = true) ∧ ¬ StrayDot name.toList := by
  have hdotted : DottedName.IsDotted name :=
    isDotted_of_mem_tokensFrom h (List.mem_map.2 ⟨l, hl, hname⟩)
  refine ⟨hdotted.ne_empty, hdotted.isNameChar_of_mem, fun hdot => ?_⟩
  have hstray := hasStrayDot_of_strayDot hdot
  rw [hdotted.hasStrayDot_eq_false] at hstray
  cases hstray

end Text

/-- **Tokens lose nothing.**  The tokens of a text, with its end as the last, stand in the text at
increasing columns and share no character.  What is outside of them is blank, two names in a row
have a blank between them, and no name has a stray dot.  A text has no tokens exactly if a longest
run of characters of names in it has a stray dot, or a character in it is not known. -/
theorem tokenize_lossless (scope : List String) (input : List Char) :
    (∀ lexemes, tokenize input = .ok lexemes →
      Lossless (Context.ofText scope input) input lexemes) ∧
    ((∃ e, tokenize input = .error e) ↔
      (∃ run, LongestRun input run ∧ StrayDot run) ∨
        ∃ front c after, input = front ++ c :: after ∧ ¬ Known front c after) := by
  refine ⟨fun lexemes h => ?_, tokenize_error_iff⟩
  have hscans : Scans 1 input lexemes := tokensFrom_eq_ok_iff.1 h
  exact {
    increasing := pairwise_meets scope h
    ends := by rw [Context.meets_eq, List.getLast?_concat]
    stands := standsAt_of_meets scope h
    disjoint := hscans.pairwise
    isBlank_iff := fun i c hc => by
      rw [Nat.add_comm]
      exact hscans.isBlank_iff hc
    apart := fun l r hpair first second hl hr => by
      obtain ⟨i, c, hc, hblank, hstop, hbefore⟩ := hscans.exists_blank_between hpair hl hr
      exact ⟨i, c, hc, hblank, by omega, by omega⟩
    names := fun l hl name hname => name_of_mem h hl hname }

/-- Two names with a blank between them, an arrow without any, and the end in column 14. -/
theorem tokenize_lossless_arrow :
    let lexemes : List Lexeme :=
      [⟨.name "é.B", 1⟩, ⟨.name "c", 5⟩, ⟨.comma, 6⟩, ⟨.openParen, 7⟩, ⟨.name "_x", 8⟩,
        ⟨.closeParen, 10⟩, ⟨.arrow, 11⟩, ⟨.name "Y", 13⟩]
    tokenize "é.B c,(_x)=>Y".toList = .ok lexemes ∧
      Lossless (Context.ofText [] "é.B c,(_x)=>Y".toList) "é.B c,(_x)=>Y".toList lexemes ∧
      (Context.ofText [] "é.B c,(_x)=>Y".toList).meets lexemes =
        lexemes.map (fun l => (some l.token, l.column)) ++ [(none, 14)] := by
  intro lexemes
  have htokens : tokenize "é.B c,(_x)=>Y".toList = .ok lexemes := by decide +kernel
  exact ⟨htokens, (tokenize_lossless [] _).1 lexemes htokens, rfl⟩

end Blueprint.TypeExpr
