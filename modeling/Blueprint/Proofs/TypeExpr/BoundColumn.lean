import Blueprint.Proofs.TypeExpr.FaultColumn
import Blueprint.Proofs.TypeExpr.Parameter

/-!
# Where faults of bounds are reported

A declaration such as `T <: A with B` is cut into its bounds, and each bound is read on its own.  A
fault in a bound has a column there, which has to become a column of the declaration.  To this end
the bytes up to the first `<:` are counted and added, whichever bound the fault lies in.

What should be added are the characters before the bound.  `column_eq_add_iff` compares the two:
they are the same exactly if the head of the declaration has as many bytes more than characters as
there are characters from the `<:` up to the bound.  With a head of ASCII characters this means that
the fault lies in the first bound.
-/

namespace Blueprint

/-! ## Cutting and joining -/

namespace Text

lemma eq_of_splitOnce {sep text front rest : List Char}
    (h : splitOnce sep text = some (front, rest)) : text = front ++ (sep ++ rest) := by
  induction text generalizing front rest with
  | nil =>
    cases sep with
    | nil =>
      cases h
      rfl
    | cons c sep => cases h
  | cons c text ih =>
    rw [splitOnce] at h
    split at h
    · next hstart =>
      cases h
      obtain ⟨after, hafter⟩ := List.isPrefixOf_iff_prefix.1 hstart
      rw [← hafter, List.drop_left]
      rfl
    · obtain ⟨parts, hparts, heq⟩ := Option.map_eq_some_iff.1 h
      cases heq
      rw [ih hparts]
      rfl

lemma piecesFrom_ne_nil (sep : List Char) (skip : Nat) (text : List Char) :
    piecesFrom sep skip text ≠ [] := by
  fun_induction piecesFrom sep skip text <;> simp_all

/-- The pieces of a text with what stood between them are the text. -/
lemma intercalate_piecesFrom {sep : List Char} (hsep : sep ≠ []) (skip : Nat) (text : List Char) :
    sep.intercalate (piecesFrom sep skip text) = text.drop skip := by
  fun_induction piecesFrom sep skip text with
  | case1 => simp
  | case2 skip c rest ih => simpa using ih
  | case3 c rest hstart ih =>
    obtain ⟨after, hafter⟩ := List.isPrefixOf_iff_prefix.1 hstart
    obtain ⟨d, tail, rfl⟩ := List.exists_cons_of_ne_nil hsep
    rw [List.cons_append, List.cons.injEq] at hafter
    obtain ⟨rfl, rfl⟩ := hafter
    rw [List.intercalate_cons_of_ne_nil (piecesFrom_ne_nil _ _ _), ih]
    simp
  | case4 c rest hstart hnil ih => exact absurd hnil (piecesFrom_ne_nil sep 0 rest)
  | case5 c rest hstart piece others hpieces ih =>
    rw [hpieces, List.drop_zero] at ih
    rw [← ih]
    cases others <;> simp

end Text

/-! ## Faults in bounds -/

namespace TypeParameter

open Blueprint.Text
open Blueprint.TypeExpr (Fault SyntaxError separator)

/-- The text of a declaration before a bound: the head, the `<:`, and the bounds that come earlier,
each with the separator after it. -/
def textBefore (head : List Char) (earlier : List (List Char)) : List Char :=
  head ++ ('<' :: ':' :: earlier.flatMap (· ++ separator))

/-- Reading a declaration fails in a bound: the text is cut at the first `<:` and then at the
separators, the earlier bounds can be read, and reading this one on its own fails. -/
structure FailsInBound (scope : List String) (text head : List Char) (earlier : List (List Char))
    (bound : List Char) (fault : Fault) : Prop where
  cut : ∃ bounds, splitOnce ['<', ':'] text = some (head, bounds) ∧
    earlier ++ [bound] <+: pieces separator bounds
  earlier_read : ∀ b ∈ earlier, ∃ t, TypeExpr.read scope b = .ok t
  fails : TypeExpr.read scope bound = .error fault

section Bounds

variable {scope : List String} {offset : Nat} {texts : List (List Char)} {e : Fault}

/-- The first bound that cannot be read decides. -/
lemma exists_bound_of_readBounds (h : readBounds scope offset texts = .error e) :
    ∃ earlier bound later fault, texts = earlier ++ bound :: later ∧
      (∀ b ∈ earlier, ∃ t, TypeExpr.read scope b = .ok t) ∧
      TypeExpr.read scope bound = .error fault ∧ e = ⟨fault.cause, fault.column + offset⟩ := by
  induction texts with
  | nil => cases h
  | cons text texts ih =>
    rw [readBounds] at h
    cases hread : TypeExpr.read scope text with
    | error fault =>
      rw [hread] at h
      cases h
      exact ⟨[], text, texts, fault, rfl, by simp, hread, rfl⟩
    | ok t =>
      rw [hread] at h
      cases hrest : readBounds scope offset texts with
      | ok ts =>
        simp only [hrest] at h
        cases h
      | error fault =>
        simp only [hrest] at h
        cases h
        obtain ⟨earlier, bound, later, fault, rfl, hearlier, hbound, he⟩ := ih hrest
        refine ⟨text :: earlier, bound, later, fault, rfl, ?_, hbound, he⟩
        intro b hb
        rcases List.mem_cons.1 hb with rfl | hb
        · exact ⟨t, hread⟩
        · exact hearlier b hb

lemma isPrefix_intercalate (earlier : List (List Char)) (bound : List Char)
    (later : List (List Char)) :
    earlier.flatMap (· ++ separator) ++ bound <+:
      separator.intercalate (earlier ++ bound :: later) := by
  induction earlier with
  | nil =>
    cases later with
    | nil => simp
    | cons next later => simp [List.intercalate_cons_cons]
  | cons first earlier ih =>
    rw [List.cons_append, List.intercalate_cons_of_ne_nil (by simp), List.flatMap_cons,
      List.append_assoc]
    exact (List.prefix_append_right_inj _).2 ih

/-- The bound stands in the text right after what comes before it. -/
lemma FailsInBound.isPrefix {text head : List Char} {earlier : List (List Char)} {bound : List Char}
    {fault : Fault} (h : FailsInBound scope text head earlier bound fault) :
    textBefore head earlier ++ bound <+: text := by
  obtain ⟨bounds, hcut, later, hpieces⟩ := h.cut
  have hbounds : separator.intercalate (earlier ++ bound :: later) = bounds := by
    have hjoin : separator.intercalate (pieces separator bounds) = bounds :=
      intercalate_piecesFrom (by decide) 0 bounds
    rw [← hpieces] at hjoin
    simpa using hjoin
  rw [eq_of_splitOnce hcut, ← hbounds, textBefore, List.append_assoc]
  exact (List.prefix_append_right_inj head).2
    ((List.prefix_append_right_inj ['<', ':']).2 (isPrefix_intercalate earlier bound later))

end Bounds

section Column

variable {scope : List String} {input : String} {e : SyntaxError}

lemma exists_failsInBound (h : parse input scope = .error e)
    (hname : e.fault.cause ≠ .expectedParameterName) :
    ∃ head earlier bound fault, FailsInBound scope input.toList head earlier bound fault ∧
      e.fault = ⟨fault.cause, fault.column + (byteLength head + 2)⟩ := by
  have hseparator : " with ".toList = separator := rfl
  obtain ⟨fault, hread, rfl⟩ := TypeExpr.exists_of_mapError h
  rw [read] at hread
  split at hread
  · cases hcut : splitOnce ['<', ':'] input.toList with
    | none =>
      simp only [hcut] at hread
      cases hread
    | some parts =>
      obtain ⟨head, bounds⟩ := parts
      simp only [hcut, hseparator] at hread
      cases hbounds : readBounds scope (byteLength head + 2) (pieces separator bounds) with
      | ok ts =>
        rw [hbounds] at hread
        cases hread
      | error outer =>
        rw [hbounds] at hread
        obtain ⟨earlier, bound, later, inner, hpieces, hearlier, hfails, rfl⟩ :=
          exists_bound_of_readBounds hbounds
        refine ⟨head, earlier, bound, inner, ⟨⟨bounds, hcut, later, ?_⟩, hearlier, hfails⟩, ?_⟩
        · rw [hpieces, List.append_assoc]
          rfl
        · exact (Except.error.inj hread).symm
  · rw [← Except.error.inj hread] at hname
    exact absurd rfl hname

/-- **Where faults of bounds are reported.**  If a declaration with a proper name is refused, some
bound cannot be read, and its cause is reported at its column in the bound and the bytes up to the
`<:`.  This is its column in the declaration exactly if the head has as many bytes more than
characters as there are characters between the `<:` and the bound.  If the head has no more bytes
than characters, the column lies in the declaration or right behind it. -/
theorem column_eq_add_iff (h : parse input scope = .error e)
    (hname : e.fault.cause ≠ .expectedParameterName) :
    ∃ head earlier bound fault, FailsInBound scope input.toList head earlier bound fault ∧
      textBefore head earlier ++ bound <+: input.toList ∧
      e.fault.cause = fault.cause ∧ e.column = byteLength head + 2 + fault.column ∧
      (e.column = (textBefore head earlier).length + fault.column ↔
        byteLength head = head.length + (earlier.flatMap (· ++ separator)).length) ∧
      1 ≤ e.column ∧ (byteLength head = head.length → e.column ≤ input.length + 1) := by
  obtain ⟨head, earlier, bound, fault, hfails, hfault⟩ := exists_failsInBound h hname
  have hcolumn : e.column = fault.column + (byteLength head + 2) := congrArg Fault.column hfault
  have hbefore : (textBefore head earlier).length =
      head.length + ((earlier.flatMap (· ++ separator)).length + 2) := by
    simp [textBefore]
  have hinside := TypeExpr.column_mem_of_read hfails.fails
  have hlength := hfails.isPrefix.length_le
  rw [List.length_append, String.length_toList] at hlength
  refine ⟨head, earlier, bound, fault, hfails, hfails.isPrefix, by rw [hfault], ?_, ?_, ?_, ?_⟩
  · omega
  · omega
  · omega
  · intro hascii
    omega

end Column

/-- In the first bound, characters of several bytes do no harm. -/
theorem column_eq_add_iff_first :
    let e : SyntaxError := ⟨⟨.unexpectedChar '#', 11⟩, "T <: Größe#"⟩
    parse "T <: Größe#" [] = .error e ∧ e.fault.cause ≠ .expectedParameterName ∧
      ∃ bound fault, FailsInBound [] "T <: Größe#".toList ['T', ' '] [] bound fault ∧
        e.column = (textBefore ['T', ' '] []).length + fault.column := by
  intro e
  have hparse : parse "T <: Größe#" [] = .error e := by decide +kernel
  have hname : e.fault.cause ≠ .expectedParameterName := by decide
  refine ⟨hparse, hname, ?_⟩
  obtain ⟨head, earlier, bound, fault, hfails, -, -, -, hiff, -⟩ := column_eq_add_iff hparse hname
  obtain ⟨bounds, hcut, hpieces⟩ := hfails.cut
  have hsplit :
      splitOnce ['<', ':'] "T <: Größe#".toList = some (['T', ' '], " Größe#".toList) := by
    decide
  rw [hsplit] at hcut
  cases hcut
  have hone : pieces separator " Größe#".toList = [" Größe#".toList] := by decide +kernel
  have hearlier : earlier = [] := by
    rw [hone] at hpieces
    simpa using hpieces.length_le
  rw [hearlier] at hfails hiff
  exact ⟨bound, fault, hfails, hiff.2 (by decide)⟩

/-- The second bound is reported as if it were the first: the character that is no part of `B#`
stands at column 14 of the declaration. -/
theorem column_of_second_bound :
    parse "T <: A with B#" [] = .error ⟨⟨.unexpectedChar '#', 6⟩, "T <: A with B#"⟩ ∧
      TypeExpr.parse "B#" [] = .error ⟨⟨.unexpectedChar '#', 2⟩, "B#"⟩ ∧
      "T <: A with B#" = "T <: A with " ++ "B#" ∧ 6 ≠ "T <: A with ".length + 2 := by
  refine ⟨by decide +kernel, by decide +kernel, by decide, by decide⟩

end TypeParameter

end Blueprint
