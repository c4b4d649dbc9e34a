import Blueprint.Text.Position
import Blueprint.Proofs.DottedName
import Mathlib.Data.List.Induction
import Mathlib.Data.Prod.Lex

/-!
# Lines and columns identify the places of a text

A place is counted up from the start of the text, one character at a time.  Counting never goes
back, so of two places the one that is read first has the smaller line, or the same line and the
smaller column (`key_lt_foldl`).  And a place can be found again: line and column are the number of
line feeds before it and the number of characters since the last of them (`foldl_advance`), so
passing as many of each leads to it.

`Position.ofOffset_identifies` states both for the offsets where a character begins and for the end
of the text.  Offsets count bytes and columns count characters; `byteLength` is the only link
between the two.
-/

namespace Blueprint.Text

/-! ## Offsets where a character begins -/

/-- A character of the text begins at the offset, or the text ends there. -/
def IsBoundary (text : List Char) (offset : Nat) : Prop :=
  ∃ front, front <+: text ∧ byteLength front = offset

lemma takeBytes?_append (front rest : List Char) :
    takeBytes? (byteLength front) (front ++ rest) = some front := by
  induction front with
  | nil => rw [byteLength_nil, takeBytes?]
  | cons c front ih =>
    have hpos := c.utf8Size_pos
    obtain ⟨n, hn⟩ : ∃ n, c.utf8Size + byteLength front = n + 1 :=
      Nat.exists_eq_add_one.2 (by omega)
    have hfront : n + 1 - c.utf8Size = byteLength front := by omega
    rw [byteLength_cons, hn, List.cons_append, takeBytes?, if_pos (by omega), hfront, ih,
      Option.map_some]

lemma dropBytes?_append_add (front rest : List Char) (n : Nat) :
    dropBytes? (byteLength front + n) (front ++ rest) = dropBytes? n rest := by
  induction front with
  | nil => rw [byteLength_nil, Nat.zero_add, List.nil_append]
  | cons c front ih =>
    have hpos := c.utf8Size_pos
    obtain ⟨m, hm⟩ : ∃ m, c.utf8Size + byteLength front + n = m + 1 :=
      Nat.exists_eq_add_one.2 (by omega)
    have hrest : m + 1 - c.utf8Size = byteLength front + n := by omega
    rw [byteLength_cons, hm, List.cons_append, dropBytes?, if_pos (by omega), hrest, ih]

lemma dropBytes?_append (front rest : List Char) :
    dropBytes? (byteLength front) (front ++ rest) = some rest := by
  have hrest := dropBytes?_append_add front rest 0
  rwa [Nat.add_zero, dropBytes?] at hrest

lemma exists_front_of_dropBytes? {n : Nat} {s rest : List Char} (h : dropBytes? n s = some rest) :
    ∃ front, s = front ++ rest ∧ byteLength front = n := by
  fun_induction dropBytes? n s with
  | case1 s =>
    cases h
    exact ⟨[], rfl, rfl⟩
  | case2 => cases h
  | case3 n c s hsize ih =>
    obtain ⟨front, rfl, hfront⟩ := ih h
    refine ⟨c :: front, rfl, ?_⟩
    rw [byteLength_cons, hfront]
    omega
  | case4 => cases h

lemma byteLength_of_dropBytes? {n : Nat} {s rest : List Char} (h : dropBytes? n s = some rest) :
    byteLength s = n + byteLength rest := by
  obtain ⟨front, rfl, rfl⟩ := exists_front_of_dropBytes? h
  exact byteLength_append front rest

lemma dropBytes?_add {m : Nat} {s rest : List Char} (h : dropBytes? m s = some rest) (n : Nat) :
    dropBytes? (m + n) s = dropBytes? n rest := by
  obtain ⟨front, rfl, rfl⟩ := exists_front_of_dropBytes? h
  exact dropBytes?_append_add front rest n

lemma dropBytes?_byteLength (s : List Char) : dropBytes? (byteLength s) s = some [] := by
  have hall := dropBytes?_append s []
  rwa [List.append_nil] at hall

lemma byteLength_le_of_isPrefix {front text : List Char} (h : front <+: text) :
    byteLength front ≤ byteLength text := by
  obtain ⟨rest, rfl⟩ := h
  rw [byteLength_append]
  exact Nat.le_add_right _ _

/-- Of two fronts of a text, the one with fewer bytes goes on to the other. -/
lemma exists_append_of_byteLength_lt {text front longer : List Char} (hfront : front <+: text)
    (hlonger : longer <+: text) (h : byteLength front < byteLength longer) :
    ∃ between, between ≠ [] ∧ longer = front ++ between := by
  rcases List.prefix_or_prefix_of_prefix hfront hlonger with ⟨between, rfl⟩ | hback
  · refine ⟨between, ?_, rfl⟩
    rintro rfl
    rw [List.append_nil] at h
    omega
  · have hle := byteLength_le_of_isPrefix hback
    omega

/-! ## Passing lines and columns -/

/-- The number of bytes on the way over some line feeds, and then over some characters; none if the
text has fewer. -/
def bytesPast? : Nat → Nat → List Char → Option Nat
  | 0, 0, _ => some 0
  | _, _, [] => none
  | 0, columns + 1, c :: rest => (bytesPast? 0 columns rest).map (c.utf8Size + ·)
  | lines + 1, columns, c :: rest =>
    (bytesPast? (if c = '\n' then lines else lines + 1) columns rest).map (c.utf8Size + ·)

lemma bytesPast?_columns (line rest : List Char) :
    bytesPast? 0 line.length (line ++ rest) = some (byteLength line) := by
  induction line with
  | nil => rw [List.length_nil, bytesPast?, byteLength_nil]
  | cons c line ih =>
    rw [List.length_cons, List.cons_append, bytesPast?, ih, Option.map_some, byteLength_cons]

lemma bytesPast?_lines (before rest : List Char) (columns : Nat) :
    bytesPast? (before.count '\n' + 1) columns (before ++ '\n' :: rest) =
      (bytesPast? 0 columns rest).map (byteLength before + 1 + ·) := by
  induction before with
  | nil => rfl
  | cons c before ih =>
    have hcount : (if c = '\n' then (c :: before).count '\n' else (c :: before).count '\n' + 1) =
        before.count '\n' + 1 := by
      by_cases hc : c = '\n'
      · rw [if_pos hc, hc, List.count_cons_self]
      · rw [if_neg hc, List.count_cons_of_ne hc]
    rw [List.cons_append, bytesPast?, hcount, ih, Option.map_map, byteLength_cons]
    congr 1
    funext n
    simp only [Function.comp_apply]
    omega

namespace Position

/-- The offset of a place in a text: behind the line feeds before its line, and then behind the
characters before its column. -/
def offset? (p : Position) (text : List Char) : Option Nat :=
  bytesPast? (p.line - 1) (p.column - 1) text

/-- The order in which the places of a text are read, by lines and then by columns. -/
def key (p : Position) : Lex (Nat × Nat) :=
  toLex (p.line, p.column)

/-! ## Counting up -/

lemma key_lt_advance (p : Position) (c : Char) : p.key < (p.advance c).key := by
  rw [key, key, advance, Prod.Lex.toLex_lt_toLex]
  by_cases hc : c = '\n'
  · rw [if_pos hc]
    exact .inl (Nat.lt_succ_self p.line)
  · rw [if_neg hc]
    exact .inr ⟨rfl, Nat.lt_succ_self p.column⟩

lemma key_lt_foldl (p : Position) {text : List Char} (h : text ≠ []) :
    p.key < (text.foldl advance p).key := by
  induction text generalizing p with
  | nil => exact absurd rfl h
  | cons c text ih =>
    have hstep := p.key_lt_advance c
    by_cases hlast : text = []
    · rw [hlast]
      exact hstep
    · exact hstep.trans (ih (p.advance c) hlast)

/-- The place behind a text: its line feeds count the lines, and what follows the last of them
counts the columns. -/
lemma foldl_advance (text : List Char) :
    text.foldl advance start = ⟨text.count '\n' + 1, (afterLast '\n' text).length + 1⟩ := by
  induction text using List.reverseRecOn with
  | nil => rfl
  | append_singleton text c ih =>
    rw [List.foldl_append, ih, List.foldl_cons, List.foldl_nil, advance, List.count_append]
    by_cases hc : c = '\n'
    · rw [if_pos hc, hc, afterLast_append_cons List.not_mem_nil, List.count_singleton_self]
      rfl
    · have hlast : afterLast '\n' (text ++ [c]) = afterLast '\n' text ++ [c] := by
        simp [afterLast, hc]
      rw [if_neg hc, hlast, List.count_singleton, List.length_append]
      simp [hc]

/-- Passing the lines and columns before a place leads to it. -/
lemma offset?_foldl_advance (front rest : List Char) :
    (front.foldl advance start).offset? (front ++ rest) = some (byteLength front) := by
  rw [foldl_advance, offset?, Nat.add_sub_cancel, Nat.add_sub_cancel]
  by_cases hfeed : '\n' ∈ front
  · obtain ⟨before, line, rfl, hline⟩ := exists_last_cut hfeed
    rw [afterLast_append_cons hline, List.count_append, List.count_cons_self,
      List.count_eq_zero.2 hline, List.append_assoc, List.cons_append, bytesPast?_lines,
      bytesPast?_columns, Option.map_some, byteLength_append, byteLength_cons]
    congr 1
    exact Nat.add_assoc _ _ _
  · rw [afterLast_of_not_mem hfeed, List.count_eq_zero.2 hfeed, bytesPast?_columns]

/-! ## Places of offsets -/

lemma ofOffset_byteLength {front text : List Char} (h : front <+: text) :
    ofOffset text (byteLength front) = front.foldl advance start := by
  obtain ⟨rest, rfl⟩ := h
  rw [ofOffset, takeBytes?_append, Option.getD_some]

/-- **Line and column identify the place.**  They count from 1, and passing the line feeds before
the line and then the characters before the column leads back to the offset.  Of two offsets, the
smaller has the place that is read first. -/
theorem ofOffset_identifies (text : List Char) :
    (∀ i, IsBoundary text i →
      1 ≤ (ofOffset text i).line ∧ 1 ≤ (ofOffset text i).column ∧
        (ofOffset text i).offset? text = some i) ∧
    ∀ i j, IsBoundary text i → IsBoundary text j → i < j →
      (ofOffset text i).key < (ofOffset text j).key := by
  refine ⟨?_, ?_⟩
  · rintro i ⟨front, hfront, rfl⟩
    rw [ofOffset_byteLength hfront]
    refine ⟨?_, ?_, ?_⟩
    · rw [foldl_advance]
      exact Nat.le_add_left 1 _
    · rw [foldl_advance]
      exact Nat.le_add_left 1 _
    · obtain ⟨rest, rfl⟩ := hfront
      exact offset?_foldl_advance front rest
  · rintro i j ⟨front, hfront, rfl⟩ ⟨longer, hlonger, rfl⟩ hlt
    obtain ⟨between, hne, rfl⟩ := exists_append_of_byteLength_lt hfront hlonger hlt
    rw [ofOffset_byteLength hfront, ofOffset_byteLength hlonger, List.foldl_append]
    exact key_lt_foldl _ hne

/-- The `é` of the second line takes two bytes and one column. -/
theorem ofOffset_identifies_accent :
    let text := ['a', 'b', '\n', 'c', 'd', 'é', '\n', 'f']
    (IsBoundary text 5 ∧ IsBoundary text 7 ∧ ofOffset text 5 = ⟨2, 3⟩ ∧ ofOffset text 7 = ⟨2, 4⟩) ∧
      (ofOffset text 5).offset? text = some 5 ∧ (ofOffset text 5).key < (ofOffset text 7).key := by
  intro text
  have hfive : IsBoundary text 5 := ⟨text.take 5, text.take_prefix 5, by decide⟩
  have hseven : IsBoundary text 7 := ⟨text.take 6, text.take_prefix 6, by decide⟩
  obtain ⟨hplace, hlt⟩ := ofOffset_identifies text
  exact ⟨⟨hfive, hseven, by decide, by decide⟩, (hplace 5 hfive).2.2,
    hlt 5 7 hfive hseven (by decide)⟩

end Position

end Blueprint.Text
